import TypeLattice.Kind
import TypeLattice.Pointee

/-!
# Types

The type lattice of the IR: a type is a scalar or a reference. A reference has a payload, its
target here, which is a free-form description of the referent: it is kept as given and never
checked against what the reference points to. `Ty Pointee` is the type of a value in a program,
`Ty String` a type whose target is only a name, `Ty (Ty α)` a reference to another type. A
scalar type is the one type of its kind (`ofKind?_eq_some_iff`).

`Ty` is a lawful functor in its target: `map` replaces the target and keeps the kind
(`kind_map`), and `mapM` runs its function once on a reference and never on a scalar
(`mapM_ref`, `mapM_scalar`). `borrow` shows the type with its target still in place, and `wrap`
puts references around a type.
-/
namespace TypeLattice

/-- The physical representation of an IR value: a scalar, or a reference with its payload. -/
inductive Ty (α : Type) where
  | scalar (s : Scalar)
  | ref (target : α)
  deriving DecidableEq, Repr

/-- A payload by reference: it is lent to a reader and stays where it is. -/
structure Borrowed (α : Type) where
  target : α
  deriving DecidableEq, Repr

/-- A borrowed payload is written like the payload itself. -/
instance {α : Type} [Render α] : Render (Borrowed α) := ⟨fun b => render b.target⟩

namespace Ty

variable {α β γ : Type}

/-- The scalar type of a kind. The kind of references has none, since a reference needs a
payload. -/
def ofKind? : Kind → Option (Ty α)
  | .scalar s => some (.scalar s)
  | .reference => none

/-- The builtin reference with that label. -/
def toLabel (l : Label) : Ty Pointee := .ref (.label l)

/-- The reference to an instance of the class of that name. -/
def toClass (name : String) : Ty Pointee := .ref (.object ⟨name⟩)

/-- The kind, with the payload forgotten. -/
def kind : Ty α → Kind
  | .scalar s => .scalar s
  | .ref _ => .reference

/-- The number of bytes that a value of the type occupies; a reference is pointer sized whatever
its payload. -/
def byteSize (t : Ty α) : Nat := t.kind.byteSize

/-- Whether the type is a reference. -/
def isReference (t : Ty α) : Bool := t.kind.isReference

/-- The payload of a reference; a scalar has none. -/
def target? : Ty α → Option α
  | .scalar _ => none
  | .ref a => some a

/-- The type rebuilt with a different payload. -/
def map (f : α → β) : Ty α → Ty β
  | .scalar s => .scalar s
  | .ref a => .ref (f a)

/-- The type rebuilt with the payload that a computation gives. -/
def mapM {m : Type → Type} [Monad m] (f : α → m β) : Ty α → m (Ty β)
  | .scalar s => pure (.scalar s)
  | .ref a => do return .ref (← f a)

instance : Functor Ty where
  map := map

instance : LawfulFunctor Ty where
  map_const := rfl
  id_map t := by cases t <;> rfl
  comp_map _ _ t := by cases t <;> rfl

/-- The borrowing view of the payload. -/
def borrow : Ty α → Ty (Borrowed α)
  | .scalar s => .scalar s
  | .ref a => .ref ⟨a⟩

/-- A scalar is written by its name, a reference by its payload between `ptr<` and `>`. -/
instance [Render α] : Render (Ty α) where
  render
    | .scalar s => s.name
    | .ref a => "ptr<" ++ render a ++ ">"

/-! ## Scalar types -/

/-- A kind alone gives a type just if it is a scalar, and then the one type of that kind. -/
theorem ofKind?_eq_some_iff {k : Kind} {t : Ty α} :
    ofKind? k = some t ↔ k.isScalar = true ∧ t.kind = k := by
  cases k <;> cases t <;> simp [ofKind?, kind, Kind.isScalar, eq_comm]

/-- A scalar type is written by the name of its kind. -/
theorem render_of_ofKind? [Render α] {k : Kind} {t : Ty α} (h : ofKind? k = some t) :
    render t = k.name := by
  obtain ⟨hk, rfl⟩ := ofKind?_eq_some_iff.1 h
  cases t with
  | scalar s => rfl
  | ref a => cases hk

/-! ## Replacing the target -/

theorem map_map (f : α → β) (g : β → γ) (t : Ty α) :
    (t.map f).map g = t.map (g ∘ f) := by cases t <;> rfl

theorem kind_map (f : α → β) (t : Ty α) : (t.map f).kind = t.kind := by cases t <;> rfl

theorem mapM_scalar {m : Type → Type} [Monad m] (f : α → m β) (s : Scalar) :
    mapM f (.scalar s) = pure (.scalar s) := rfl

theorem mapM_ref {m : Type → Type} [Monad m] [LawfulMonad m] (f : α → m β) (a : α) :
    mapM f (.ref a) = .ref <$> f a := by
  rw [mapM, bind_pure_comp]

theorem render_ref [Render α] (a : α) : render (.ref a : Ty α) = "ptr<" ++ render a ++ ">" := rfl

/-- A type whose target is replaced by its written form is written as before. -/
theorem render_map_render [Render α] (t : Ty α) : render (t.map render) = render t := by
  cases t <;> rfl

/-! ## Borrowing the target -/

theorem render_borrow [Render α] (t : Ty α) : render t.borrow = render t := by cases t <;> rfl

theorem target?_borrow (t : Ty α) : t.borrow.target?.map Borrowed.target = t.target? := by
  cases t <;> rfl

theorem map_target_borrow (t : Ty α) : t.borrow.map Borrowed.target = t := by cases t <;> rfl

/-- A function of the target may as well read the borrowed one. -/
theorem map_borrow (f : α → β) (t : Ty α) : t.borrow.map (f ∘ Borrowed.target) = t.map f := by
  rw [← map_map, map_target_borrow]

end Ty

/-! ## References to references -/

/-- A target under `n` references. -/
abbrev Nest (α : Type) : Nat → Type
  | 0 => α
  | n + 1 => Ty (Nest α n)

/-- A nested target is written as the types that make it up. -/
instance Nest.instRender {α : Type} [Render α] : (n : Nat) → Render (Nest α n)
  | 0 => inferInstanceAs (Render α)
  | n + 1 => @Ty.instRender _ (Nest.instRender n)

namespace Ty

variable {α : Type}

/-- The type with `n` references around it. -/
def wrap : (n : Nat) → Ty α → Ty (Nest α n)
  | 0, t => t
  | n + 1, t => .ref (wrap n t)

theorem render_wrap_succ [Render α] (n : Nat) (t : Ty α) :
    render (wrap (n + 1) t) = "ptr<" ++ render (wrap n t) ++ ">" := rfl

theorem kind_wrap_succ (n : Nat) (t : Ty α) : (wrap (n + 1) t).kind = .reference := rfl

end Ty

end TypeLattice
