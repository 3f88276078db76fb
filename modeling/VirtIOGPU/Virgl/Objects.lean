import VirtIOGPU.Virgl.Emission

/-!
# The objects of a context

A context of the host keeps its objects under handles, one for all types.  A call that names an
object under a handle that holds none, or one of another type, is an error, and so is a call that
creates an object under a handle in use: the host then refuses everything that follows.  `accept` is
a call without such an error.
-/

namespace VirtIOGPU.Virgl

/-- A type, `VIRGL_OBJECT_*`, and a handle. -/
structure HostObject where
  objType : UInt32
  handle : UInt32
  deriving DecidableEq, Repr

abbrev ObjectTable := List HostObject

/-- What a call needs, makes and removes. -/
structure ObjectUse where
  names : List HostObject
  creates : Option HostObject
  destroys : Option HostObject

def VirglCall.creates : VirglCall → Option HostObject
  | .createSurface s => some ⟨8, s.handle⟩
  | .createBlend handle _ _ => some ⟨1, handle⟩
  | .createDsa d => some ⟨3, d.handle⟩
  | .createRasterizer r => some ⟨2, r.handle⟩
  | .createShader handle _ _ => some ⟨4, handle⟩
  | .createVertexElements handle _ => some ⟨5, handle⟩
  | .createSamplerState s => some ⟨7, s.handle⟩
  | .createSamplerView s => some ⟨6, s.handle⟩
  | _ => none

def VirglCall.use (call : VirglCall) : ObjectUse where
  names :=
    match call with
    | .bindObject objType handle | .destroyObject objType handle => [⟨objType, handle⟩]
    | .bindShader _ handle => [⟨4, handle⟩]
    | .bindSamplerStates _ _ handles => handles.map fun handle => ⟨7, handle⟩
    | .setSamplerViews _ _ handles => handles.map fun handle => ⟨6, handle⟩
    | .setFramebufferState zsurf surfs =>
        (if zsurf = 0 then [] else [⟨8, zsurf⟩]) ++ surfs.map fun handle => ⟨8, handle⟩
    | _ => []
  creates := call.creates
  destroys :=
    match call with
    | .destroyObject objType handle => some ⟨objType, handle⟩
    | _ => none

/-- The host finds everything as it should be. -/
def accept (table : ObjectTable) (use : ObjectUse) : Option ObjectTable := do
  guard (∀ object ∈ use.names, object ∈ table)
  guard (∀ object ∈ use.creates, ∀ other ∈ table, other.handle ≠ object.handle)
  return use.creates.toList ++ table.filter fun object => use.destroys ≠ some object

def acceptUses (table : ObjectTable) (uses : List ObjectUse) : Option ObjectTable :=
  uses.foldlM accept table

/-- The host performs these calls without an error. -/
def acceptAll (table : ObjectTable) (calls : List VirglCall) : Option ObjectTable :=
  acceptUses table (calls.map VirglCall.use)

variable {table table' : ObjectTable} {use : ObjectUse} {uses : List ObjectUse}

/-- The host that performs everything performs every beginning of it. -/
theorem acceptAll_beginning {first all : List VirglCall} (hbegin : first <+: all)
    (h : (acceptAll table all).isSome) : (acceptAll table first).isSome := by
  obtain ⟨rest, rfl⟩ := hbegin
  rw [acceptAll, List.map_append, acceptUses, List.foldlM_append] at h
  change (acceptUses table (first.map VirglCall.use)).isSome
  cases hfirst : acceptUses table (first.map VirglCall.use) with
  | none =>
      rw [acceptUses] at hfirst
      rw [hfirst] at h
      exact absurd h (by simp)
  | some t => rfl

/-- What is created is there afterwards, and nothing but what is destroyed is gone. -/
theorem mem_of_accept (h : accept table use = some table') {object : HostObject}
    (hobject : use.creates = some object ∨ object ∈ table ∧ use.destroys ≠ some object) :
    object ∈ table' := by
  have hnext : table' = use.creates.toList ++
      table.filter fun object => use.destroys ≠ some object := by
    unfold accept at h
    simp only [Option.bind_eq_bind, Option.bind_eq_some_iff, Option.pure_def,
      Option.some.injEq] at h
    obtain ⟨-, -, -, -, hnext⟩ := h
    exact hnext.symm
  rw [hnext, List.mem_append, Option.mem_toList]
  rcases hobject with hcreates | ⟨hmem, hdestroys⟩
  · exact Or.inl hcreates
  · exact Or.inr (List.mem_filter.mpr ⟨hmem, by simpa using hdestroys⟩)

/-- Where nothing is destroyed, all that has been created is there. -/
theorem created_live (hkeeps : ∀ use ∈ uses, use.destroys = none)
    (h : acceptUses table uses = some table') {object : HostObject}
    (hobject : object ∈ table ∨ ∃ use ∈ uses, use.creates = some object) :
    object ∈ table' := by
  induction uses generalizing table with
  | nil =>
      obtain rfl : table = table' := by simpa [acceptUses] using h
      simpa using hobject
  | cons use rest ih =>
      have huse : use.destroys = none := hkeeps use (List.mem_cons_self ..)
      have hrest : ∀ u ∈ rest, u.destroys = none := fun u hu => hkeeps u (List.mem_cons_of_mem _ hu)
      rw [acceptUses, List.foldlM_cons] at h
      obtain ⟨middle, hfirst, hsecond⟩ := Option.bind_eq_some_iff.mp h
      refine ih hrest hsecond ?_
      rcases hobject with hmem | ⟨creator, hcreator, hcreates⟩
      · exact Or.inl (mem_of_accept hfirst (Or.inr ⟨hmem, by simp [huse]⟩))
      rcases List.mem_cons.mp hcreator with rfl | hin
      · exact Or.inl (mem_of_accept hfirst (Or.inl hcreates))
      · exact Or.inr ⟨creator, hin, hcreates⟩

end VirtIOGPU.Virgl
