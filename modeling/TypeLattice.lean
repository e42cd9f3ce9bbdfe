import TypeLattice.Main
import TypeLattice.Operand.Listing
import TypeLattice.Proofs.Cli.Interleaving
import TypeLattice.Proofs.Cli.OneMore
import TypeLattice.Proofs.Cli.Reordering
import TypeLattice.Proofs.Cli.Status
import TypeLattice.Proofs.Cli.Trace
import TypeLattice.Proofs.Operand.Lines
import TypeLattice.Proofs.Operand.Reading
import TypeLattice.Proofs.Pattern.Reading
import TypeLattice.Proofs.Table.Gap
import TypeLattice.Proofs.Table.Json
import TypeLattice.Proofs.Table.Traversal
import TypeLattice.Proofs.Table.View
import TypeLattice.Proofs.Ty.Chain
import TypeLattice.Proofs.Ty.Nested
