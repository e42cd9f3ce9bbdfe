import Mathlib.Data.List.Range
import TypeLattice.Proofs.Ty.Reading

/-!
# Targets replaced along a chain

The target of a type may be replaced more than once, by functions each of which takes what the one
before it has made. Done step by step or at once with the composed function, the same type comes
out, stored as the first one was. A scalar passes through without a function being run.

Results:

* `Chain.replace_append`, `Chain.replace_eq_map`: the steps of a chain and the composed function;
* `Chain.replaceM_scalar`, `Chain.replaceM_ref`: which functions run, how often, in which order;
* `Chain.replace_functorial`: both together, for the types between the steps too.
-/
namespace TypeLattice

/-- Functions one behind the other, each of which takes what the one before it makes. -/
inductive Chain : Type → Type → Type 1 where
  | nil {α : Type} : Chain α α
  | cons {α β γ : Type} (f : α → β) (later : Chain β γ) : Chain α γ

namespace Chain

variable {α β γ : Type}

/-- The number of functions. -/
def length {α β : Type} : Chain α β → Nat
  | nil => 0
  | cons _ later => later.length + 1

/-- The functions of a chain and behind them those of another. -/
def append {α β γ : Type} : Chain α β → Chain β γ → Chain α γ
  | nil, back => back
  | cons f later, back => cons f (later.append back)

/-- The functions as one. -/
def composed {α β : Type} : Chain α β → α → β
  | nil => id
  | cons f later => later.composed ∘ f

/-- The type after its target is replaced by each function in turn. -/
def replace {α β : Type} : Chain α β → Ty α → Ty β
  | nil, t => t
  | cons f later, t => later.replace (t.map f)

/-- The same where a run of a function has an effect, which is given by the function's place in the
chain; the places are counted from `first`. -/
def replaceM {α β : Type} {m : Type → Type} [Monad m] (effect : Nat → m Unit) (first : Nat) :
    Chain α β → Ty α → m (Ty β)
  | nil, t => pure t
  | cons f later, t => do
    let u ← t.mapM fun a => do
      effect first
      return f a
    later.replaceM effect (first + 1) u

/-! ## Step by step and at once -/

theorem replace_append (front : Chain α β) (back : Chain β γ) (t : Ty α) :
    (front.append back).replace t = back.replace (front.replace t) := by
  induction front with
  | nil => rfl
  | cons f later ih => exact ih back (t.map f)

theorem replace_eq_map (chain : Chain α β) (t : Ty α) :
    chain.replace t = t.map chain.composed := by
  induction chain with
  | nil => exact (LawfulFunctor.id_map t).symm
  | cons f later ih => rw [replace, ih, Ty.map_map, composed]

theorem replace_scalar (chain : Chain α β) (s : Scalar) :
    chain.replace (.scalar s) = .scalar s := replace_eq_map chain _

theorem replace_ref (chain : Chain α β) (a : α) :
    chain.replace (.ref a) = .ref (chain.composed a) := replace_eq_map chain _

theorem kind_replace (chain : Chain α β) (t : Ty α) : (chain.replace t).kind = t.kind := by
  rw [replace_eq_map, Ty.kind_map]

/-! ## Runs -/

section Effects

variable {m : Type → Type} [Monad m] [LawfulMonad m] (effect : Nat → m Unit)

theorem replaceM_scalar (first : Nat) (chain : Chain α β) (s : Scalar) :
    chain.replaceM effect first (.scalar s) = pure (.scalar s) := by
  induction chain generalizing first with
  | nil => rfl
  | cons f later ih => rw [replaceM, Ty.mapM_scalar, pure_bind, ih]

/-- The first function of a chain runs before all others. -/
theorem replaceM_cons_ref (first : Nat) (f : α → β) (later : Chain β γ) (a : α) :
    (cons f later).replaceM effect first (.ref a) = (do
      effect first
      later.replaceM effect (first + 1) (.ref (f a))) := by
  simp [replaceM, Ty.mapM_ref]

theorem replaceM_ref (first : Nat) (chain : Chain α β) (a : α) :
    chain.replaceM effect first (.ref a) = (do
      forM (List.range' first chain.length) effect
      return .ref (chain.composed a)) := by
  induction chain generalizing first with
  | nil => simp [replaceM, length, composed]
  | cons f later ih =>
    -- the place of the first function comes off the range, and the others are counted from the next
    rw [replaceM_cons_ref, ih, length, List.range'_succ, List.forM_cons, bind_assoc]
    rfl

end Effects

/-! ## The whole chain -/

theorem render_replace_ref [Render β] (chain : Chain α β) (a : α) :
    render (chain.replace (.ref a)) = "ptr<" ++ render (chain.composed a) ++ ">" := by
  rw [replace_ref, Ty.render_ref]

/-- Along a chain the target is replaced as by the composed function, and the type keeps its kind
and its size at each step: the kind alone gives a scalar type back, which is written by the name of
the kind, and no other. The target may be borrowed there without the type looking any different. A
scalar comes out as it went in and no function runs. On a reference each function runs once, in
order, whatever its runs do besides. So a target may be replaced by its written form, and the type
can still be read back. -/
theorem replace_functorial {m : Type → Type} [Monad m] [LawfulMonad m] (effect : Nat → m Unit)
    [Render β] (front : Chain α β) (back : Chain β γ) (t : Ty α) :
    let u := front.replace t
    (front.append back).replace t = back.replace u ∧ u = t.map front.composed ∧
    u.kind = t.kind ∧ u.byteSize = t.byteSize ∧ u.isReference = t.isReference ∧
    (∀ k : Kind, Ty.ofKind? k = some u ↔ k.isScalar = true ∧ t.kind = k) ∧
    (∀ k : Kind, Ty.ofKind? k = some u → render u = k.name) ∧
    render u.borrow = render u ∧ u.borrow.map Borrowed.target = u ∧
    u.borrow.target?.map Borrowed.target = u.target? ∧
    (∀ s : Scalar, front.replace (.scalar s) = .scalar s ∧
      front.replaceM effect 0 (.scalar s) = pure (.scalar s)) ∧
    (∀ a : α, front.replace (.ref a) = .ref (front.composed a) ∧
      render (front.replace (.ref a)) = "ptr<" ++ render (front.composed a) ++ ">" ∧
      front.replaceM effect 0 (.ref a) = (do
        forM (List.range front.length) effect
        return .ref (front.composed a))) ∧
    ∀ v : Ty Pointee, v.borrow.map render = v.map render ∧ render (v.map render) = render v ∧
      Ty.parse (render (v.map render)) = .ok v := by
  intro u
  have hkind : u.kind = t.kind := kind_replace front t
  refine ⟨replace_append front back t, replace_eq_map front t, hkind,
    congrArg Kind.byteSize hkind, congrArg Kind.isReference hkind, fun k => ?_,
    fun k => Ty.render_of_ofKind?, Ty.render_borrow u, Ty.map_target_borrow u,
    Ty.target?_borrow u, fun s => ?_, fun a => ?_, fun v => ?_⟩
  · rw [Ty.ofKind?_eq_some_iff, hkind]
  · exact ⟨replace_scalar front s, replaceM_scalar effect 0 front s⟩
  · refine ⟨replace_ref front a, render_replace_ref front a, ?_⟩
    rw [replaceM_ref, List.range_eq_range']
  · have hrender : render (v.map render) = render v := Ty.render_map_render v
    refine ⟨Ty.map_borrow render v, hrender, ?_⟩
    rw [hrender, Ty.parse_render]

/-- The name of a class is written out and measured, and each run is noted. -/
theorem class_name_measured :
    let front : Chain Pointee Nat := cons render (cons String.utf8ByteSize nil)
    let note (place : Nat) : StateM (List Nat) Unit := modify (· ++ [place])
    render (front.replace (Ty.toClass "é")) = "ptr<8>" ∧
    (front.replaceM note 0 (Ty.toClass "é")).run [] = (.ref 8, [0, 1]) ∧
    (front.replaceM note 0 (.scalar .float)).run [] = (.scalar .float, []) := by
  intro front note
  obtain ⟨-, -, -, -, -, -, -, -, -, -, hscalar, href, -⟩ :=
    replace_functorial note front (nil : Chain Nat Nat) (Ty.toClass "é")
  obtain ⟨-, hrender, hruns⟩ := href (.object ⟨"é"⟩)
  refine ⟨hrender.trans (by decide), ?_, ?_⟩
  · rw [Ty.toClass, hruns]
    rfl
  · rw [(hscalar .float).2]
    rfl

end Chain

end TypeLattice
