import VirtIOGPU.Compositing.Pipeline
import VirtIOGPU.Lib.Links

/-!
# Tag lists

A tag list lies in memory: items of two words, a tag and its data.  `TAG_MORE` goes on at another
address, `TAG_SKIP` passes over items, `TAG_IGNORE` is passed over itself, and `TAG_DONE` or a
`NULL` address ends the list.  `Flattens` says which items are left; every list that does not lead
back to itself has such items (`Flattens.exists_of_acyclic`), and the loop of
`hook_CompositeTagList` ends on it with the last value of every tag (`parseTags_eq`).

## Strategy

```text
tag          Flattens   the loop
NULL, DONE   ends       returns
MORE         goes on at the address in the data
SKIP         goes on behind as many items as the data says
IGNORE       goes on with the next item
any other    an item    keeps its data, if it knows the tag
```

The loop may run `fuel` times, and a list has no bound on its length.  `parseTags_eq` is by
induction on `Flattens`, with enough fuel for the rest of the list.  That there is such a derivation
for every list without a cycle is a fact about paths in a finite graph (`Acyclic.exists_path`).
-/

namespace VirtIOGPU.Compositing

open Lib.Links

/-! ## The items -/

def tagDone : UInt32 := 0
def tagIgnore : UInt32 := 1
def tagMore : UInt32 := 2
def tagSkip : UInt32 := 3

/-- `COMPTAG_*`, as far as the driver reads them. -/
inductive CompTagName where
  | srcX
  | srcY
  | srcWidth
  | srcHeight
  | destX
  | destY
  | destWidth
  | destHeight
  | flags
  | color0
  | vertexArray
  | srcAlphaMask
  deriving DecidableEq, Repr

def CompTagName.all : List CompTagName :=
  [.srcX, .srcY, .srcWidth, .srcHeight, .destX, .destY, .destWidth, .destHeight, .flags, .color0,
    .vertexArray, .srcAlphaMask]

theorem CompTagName.mem_all (name : CompTagName) : name ∈ all := by
  cases name <;> decide

/-- The numbers of the tags.  The labels of a `switch` differ. -/
structure CompTagNumbers where
  number : CompTagName → UInt32
  number_inj : ∀ {first second}, number first = number second → first = second
  number_user : ∀ name, number name ∉ [tagDone, tagIgnore, tagMore, tagSkip]

/-- The label that is chosen. -/
def CompTagNumbers.name (numbers : CompTagNumbers) (tiTag : UInt32) : Option CompTagName :=
  CompTagName.all.find? fun name => numbers.number name == tiTag

/-- The variables of the loop. -/
structure ParsedTags where
  srcX : Int32 := 0
  srcY : Int32 := 0
  srcW : Int32 := 0
  srcH : Int32 := 0
  dstX : Int32 := 0
  dstY : Int32 := 0
  dstW : Int32 := 0
  dstH : Int32 := 0
  flags : UInt32 := 0
  color0 : UInt32 := 0xFF000000
  hasVertexArray : Bool := false
  hasAlphaMask : Bool := false
  deriving DecidableEq, Repr

/-- The cases of the `switch`. -/
def ParsedTags.put (args : ParsedTags) (tiData : UInt32) : CompTagName → ParsedTags
  | .srcX => { args with srcX := tiData.toInt32 }
  | .srcY => { args with srcY := tiData.toInt32 }
  | .srcWidth => { args with srcW := tiData.toInt32 }
  | .srcHeight => { args with srcH := tiData.toInt32 }
  | .destX => { args with dstX := tiData.toInt32 }
  | .destY => { args with dstY := tiData.toInt32 }
  | .destWidth => { args with dstW := tiData.toInt32 }
  | .destHeight => { args with dstH := tiData.toInt32 }
  | .flags => { args with flags := tiData }
  | .color0 => { args with color0 := tiData }
  | .vertexArray => { args with hasVertexArray := true }
  | .srcAlphaMask => { args with hasAlphaMask := true }

/-- `TAG_IGNORE` and unknown tags change nothing. -/
def ParsedTags.set (numbers : CompTagNumbers) (args : ParsedTags) (tiTag tiData : UInt32) :
    ParsedTags :=
  match numbers.name tiTag with
  | some name => args.put tiData name
  | none => args

/-- The loop over the tags; the first argument is how often it may still run. -/
def parseTags (numbers : CompTagNumbers) (load : UInt32 → UInt32) :
    ℕ → UInt32 → ParsedTags → Option ParsedTags
  | 0, _, _ => none
  | fuel + 1, tstate, args =>
    if tstate = 0 ∨ load tstate = tagDone then some args
    else
      let tiTag := load tstate
      let tiData := load (tstate + 4)
      if tiTag = tagMore then parseTags numbers load fuel tiData args
      else if tiTag = tagSkip then parseTags numbers load fuel (tstate + 8 * (tiData + 1)) args
      else parseTags numbers load fuel (tstate + 8) (args.set numbers tiTag tiData)

/-! ## The flattened list -/

structure TagItem where
  tiTag : UInt32
  tiData : UInt32
  deriving DecidableEq, Repr

/-- The items of the list at an address, without those that only direct the reader. -/
inductive Flattens (load : UInt32 → UInt32) : UInt32 → List TagItem → Prop
  | null : Flattens load 0 []
  | done {a : UInt32} (htag : load a = tagDone) : Flattens load a []
  | more {a : UInt32} {items : List TagItem} (hne : a ≠ 0) (htag : load a = tagMore)
      (rest : Flattens load (load (a + 4)) items) : Flattens load a items
  | skip {a : UInt32} {items : List TagItem} (hne : a ≠ 0) (htag : load a = tagSkip)
      (rest : Flattens load (a + 8 * (load (a + 4) + 1)) items) : Flattens load a items
  | ignore {a : UInt32} {items : List TagItem} (hne : a ≠ 0) (htag : load a = tagIgnore)
      (rest : Flattens load (a + 8) items) : Flattens load a items
  | item {a : UInt32} {items : List TagItem} (hne : a ≠ 0)
      (htag : load a ∉ [tagDone, tagIgnore, tagMore, tagSkip])
      (rest : Flattens load (a + 8) items) : Flattens load a (⟨load a, load (a + 4)⟩ :: items)

/-- Where the reader goes from an address. -/
def nextTag (load : UInt32 → UInt32) (a : UInt32) : Option UInt32 :=
  if a = 0 ∨ load a = tagDone then none
  else if load a = tagMore then some (load (a + 4))
  else if load a = tagSkip then some (a + 8 * (load (a + 4) + 1))
  else some (a + 8)

/-- The data of the last item with this tag. -/
def lastValue (items : List TagItem) (tiTag : UInt32) : Option UInt32 :=
  (items.reverse.find? fun item => item.tiTag == tiTag).map TagItem.tiData

/-- The values of the variables for some tags, and their defaults without. -/
def ParsedTags.ofGiven (given : CompTagName → Option UInt32) : ParsedTags where
  srcX := ((given .srcX).getD 0).toInt32
  srcY := ((given .srcY).getD 0).toInt32
  srcW := ((given .srcWidth).getD 0).toInt32
  srcH := ((given .srcHeight).getD 0).toInt32
  dstX := ((given .destX).getD 0).toInt32
  dstY := ((given .destY).getD 0).toInt32
  dstW := ((given .destWidth).getD 0).toInt32
  dstH := ((given .destHeight).getD 0).toInt32
  flags := (given .flags).getD 0
  color0 := (given .color0).getD 0xFF000000
  hasVertexArray := (given .vertexArray).isSome
  hasAlphaMask := (given .srcAlphaMask).isSome

/-- The last value of every tag wins. -/
def lastValues (numbers : CompTagNumbers) (items : List TagItem) : ParsedTags :=
  .ofGiven fun name => lastValue items (numbers.number name)

/-! ## The loop computes the last values -/

section

variable {numbers : CompTagNumbers} {load : UInt32 → UInt32} {items : List TagItem} {a : UInt32}

theorem lastValue_append (items : List TagItem) (item : TagItem) (tiTag : UInt32) :
    lastValue (items ++ [item]) tiTag =
      if item.tiTag = tiTag then some item.tiData else lastValue items tiTag := by
  unfold lastValue
  rw [List.reverse_concat, List.find?_cons]
  by_cases htag : item.tiTag = tiTag
  · rw [if_pos htag, beq_iff_eq.mpr htag]
    rfl
  · rw [if_neg htag, beq_eq_false_iff_ne.mpr htag]

theorem CompTagNumbers.name_eq_some {tiTag : UInt32} {name : CompTagName} :
    numbers.name tiTag = some name ↔ tiTag = numbers.number name := by
  have hfound {tiTag : UInt32} {name : CompTagName} (h : numbers.name tiTag = some name) :
      numbers.number name = tiTag := by
    have hlabel : (numbers.number name == tiTag) = true :=
      @List.find?_some _ (fun name => numbers.number name == tiTag) _ _ h
    exact beq_iff_eq.mp hlabel
  constructor
  · exact fun h => (hfound h).symm
  · rintro rfl
    have hsome : (numbers.name (numbers.number name)).isSome :=
      List.find?_isSome.mpr ⟨name, name.mem_all, beq_self_eq_true _⟩
    obtain ⟨other, hother⟩ := Option.isSome_iff_exists.mp hsome
    rw [hother, numbers.number_inj (hfound hother)]

/-- One more item. -/
theorem lastValues_append (items : List TagItem) (item : TagItem) :
    lastValues numbers (items ++ [item]) =
      (lastValues numbers items).set numbers item.tiTag item.tiData := by
  unfold ParsedTags.set
  cases hname : numbers.name item.tiTag with
  | none =>
      have hsame (name : CompTagName) : lastValue (items ++ [item]) (numbers.number name) =
          lastValue items (numbers.number name) := by
        rw [lastValue_append, if_neg]
        intro htag
        rw [CompTagNumbers.name_eq_some.mpr htag] at hname
        cases hname
      simp only [lastValues, hsame]
  | some name =>
      have htag := CompTagNumbers.name_eq_some.mp hname
      have hgiven : (fun other => lastValue (items ++ [item]) (numbers.number other)) =
          Function.update (fun other => lastValue items (numbers.number other)) name
            (some item.tiData) := by
        funext other
        rw [lastValue_append, htag]
        by_cases hother : other = name
        · rw [hother, if_pos rfl, Function.update_self]
        · rw [Function.update_of_ne hother,
            if_neg fun hnumber => hother (numbers.number_inj hnumber).symm]
      rw [lastValues, hgiven]
      cases name <;> rfl

theorem foldl_set (items : List TagItem) :
    items.foldl (fun args item => args.set numbers item.tiTag item.tiData) {} =
      lastValues numbers items := by
  induction items using List.reverseRecOn with
  | nil => rfl
  | append_singleton items item ih => rw [List.foldl_concat, ih, lastValues_append]

/-- The reader passes over a tag that is not one of `COMPTAG_*`. -/
theorem set_ignore (args : ParsedTags) (tiData : UInt32) :
    args.set numbers tagIgnore tiData = args := by
  have hname : numbers.name tagIgnore = none := by
    cases hname : numbers.name tagIgnore with
    | none => rfl
    | some name =>
        have htag := CompTagNumbers.name_eq_some.mp hname
        exact absurd (by rw [← htag]; decide) (numbers.number_user name)
  rw [ParsedTags.set, hname]

/-- An item that is passed to the `switch`. -/
theorem parseTags_item (hne : a ≠ 0) (hdone : load a ≠ tagDone) (hmore : load a ≠ tagMore)
    (hskip : load a ≠ tagSkip) (fuel : ℕ) (args : ParsedTags) :
    parseTags numbers load (fuel + 1) a args =
      parseTags numbers load fuel (a + 8) (args.set numbers (load a) (load (a + 4))) := by
  rw [parseTags, if_neg (not_or.mpr ⟨hne, hdone⟩)]
  exact (if_neg hmore).trans (if_neg hskip)

/-- The loop ends on every list that has items, with all of them. -/
theorem parseTags_eq (h : Flattens load a items) (args : ParsedTags) :
    ∃ n, ∀ fuel ≥ n, parseTags numbers load fuel a args =
      some (items.foldl (fun args item => args.set numbers item.tiTag item.tiData) args) := by
  -- one more step of the loop
  have hstep {a b : UInt32} {args args' : ParsedTags} {result : Option ParsedTags}
      (hrest : ∃ n, ∀ fuel ≥ n, parseTags numbers load fuel b args' = result)
      (hone : ∀ fuel, parseTags numbers load (fuel + 1) a args =
        parseTags numbers load fuel b args') :
      ∃ n, ∀ fuel ≥ n, parseTags numbers load fuel a args = result := by
    obtain ⟨n, hn⟩ := hrest
    refine ⟨n + 1, fun fuel hfuel => ?_⟩
    obtain ⟨fuel, rfl⟩ : ∃ k, fuel = k + 1 := ⟨fuel - 1, by omega⟩
    rw [hone fuel, hn fuel (by omega)]
  have hend {a : UInt32} {args : ParsedTags} (hlast : a = 0 ∨ load a = tagDone) :
      ∃ n, ∀ fuel ≥ n, parseTags numbers load fuel a args = some args := by
    refine ⟨1, fun fuel hfuel => ?_⟩
    obtain ⟨fuel, rfl⟩ : ∃ k, fuel = k + 1 := ⟨fuel - 1, by omega⟩
    rw [parseTags, if_pos hlast]
  induction h generalizing args with
  | null => exact hend (Or.inl rfl)
  | done htag => exact hend (Or.inr htag)
  | more hne htag rest ih =>
      refine hstep (ih args) fun fuel => ?_
      rw [parseTags, if_neg (not_or.mpr ⟨hne, by rw [htag]; decide⟩)]
      exact if_pos htag
  | skip hne htag rest ih =>
      refine hstep (ih args) fun fuel => ?_
      rw [parseTags, if_neg (not_or.mpr ⟨hne, by rw [htag]; decide⟩)]
      exact (if_neg (by rw [htag]; decide)).trans (if_pos htag)
  | ignore hne htag rest ih =>
      refine hstep (ih args) fun fuel => ?_
      rw [parseTags_item hne (by rw [htag]; decide) (by rw [htag]; decide) (by rw [htag]; decide),
        htag, set_ignore]
  | item hne htag rest ih =>
      simp only [List.mem_cons, List.not_mem_nil, or_false, not_or] at htag
      obtain ⟨hdone, -, hmore, hskip⟩ := htag
      exact hstep (ih _) fun fuel => parseTags_item hne hdone hmore hskip fuel args

/-- A list that does not lead back to itself has items. -/
theorem Flattens.exists_of_acyclic (h : Acyclic (nextTag load) a) :
    ∃ items, Flattens load a items := by
  have hfinite : Finite UInt32 :=
    Finite.of_injective UInt32.toFin fun first second hfin => UInt32.toFin_inj.mp hfin
  obtain ⟨visited, path⟩ := h.exists_path
  clear h
  induction path with
  | @last a hlast =>
      have hend : a = 0 ∨ load a = tagDone := by
        by_contra hnot
        rw [nextTag, if_neg hnot] at hlast
        split at hlast
        · cases hlast
        · split at hlast <;> cases hlast
      rcases hend with rfl | htag
      · exact ⟨[], .null⟩
      · exact ⟨[], .done htag⟩
  | @step a b visited hnext rest ih =>
      obtain ⟨items, hitems⟩ := ih
      have hgo : ¬ (a = 0 ∨ load a = tagDone) := by
        intro hend
        rw [nextTag, if_pos hend] at hnext
        cases hnext
      obtain ⟨hne, hdone⟩ := not_or.mp hgo
      rw [nextTag, if_neg hgo] at hnext
      split at hnext
      · next hmore =>
        obtain rfl := Option.some.inj hnext
        exact ⟨items, .more hne hmore hitems⟩
      split at hnext
      · next hskip =>
        obtain rfl := Option.some.inj hnext
        exact ⟨items, .skip hne hskip hitems⟩
      next hmore hskip =>
      obtain rfl := Option.some.inj hnext
      by_cases hignore : load a = tagIgnore
      · exact ⟨items, .ignore hne hignore hitems⟩
      · refine ⟨⟨load a, load (a + 4)⟩ :: items, .item hne ?_ hitems⟩
        simp only [List.mem_cons, List.not_mem_nil, or_false, not_or]
        exact ⟨hdone, hignore, hmore, hskip⟩

end

end VirtIOGPU.Compositing
