import Mathlib.Data.List.Chain
import Mathlib.Data.List.Pairwise
import Mathlib.Logic.Basic

/-!
# Tilings of an interval by segments

A list of segments tiles `[lo, hi)` when the first starts at `lo`, each starts
where the one before it ends, and the last ends at `hi`.  A segment is any value
with a start and a size.

Where some segments are free and others are used, the tiling is *coalesced* when
no two neighbours are free.  The lemmas say what merging two neighbours and
splitting a segment do to both.

A coalesced tiling that ends with a used segment is in canonical form: it is
determined by its used segments (`Canonical.unique`), and its free segments are the gaps between
these (`Canonical.free_iff_gap`).
-/

namespace Lib.Tiling

variable {α : Type*} (start size : α → ℕ)

/-- The segments, in order, tile `[lo, hi)`. -/
def Tiles : ℕ → List α → ℕ → Prop
  | lo, [], hi => lo = hi
  | lo, x :: rest, hi => start x = lo ∧ Tiles (lo + size x) rest hi

variable {start size}
variable {lo hi : ℕ} {x y z : α} {segments pre post : List α}

@[simp] theorem tiles_nil : Tiles start size lo [] hi ↔ lo = hi := Iff.rfl

@[simp] theorem tiles_cons :
    Tiles start size lo (x :: post) hi ↔ start x = lo ∧ Tiles start size (lo + size x) post hi :=
  Iff.rfl

theorem tiles_append :
    Tiles start size lo (pre ++ post) hi ↔
      ∃ mid, Tiles start size lo pre mid ∧ Tiles start size mid post hi := by
  induction pre generalizing lo with
  | nil => simp
  | cons x rest ih =>
      simp only [List.cons_append, tiles_cons, ih]
      constructor
      · rintro ⟨hx, mid, hrest, hpost⟩
        exact ⟨mid, ⟨hx, hrest⟩, hpost⟩
      · rintro ⟨mid, ⟨hx, hrest⟩, hpost⟩
        exact ⟨hx, mid, hrest, hpost⟩

theorem Tiles.le (h : Tiles start size lo segments hi) : lo ≤ hi := by
  induction segments generalizing lo with
  | nil => exact h.le
  | cons x rest ih =>
      have hrest := ih h.2
      omega

/-- A tiling ends in one place. -/
theorem Tiles.end_unique {hi' : ℕ} (h : Tiles start size lo segments hi)
    (h' : Tiles start size lo segments hi') : hi = hi' := by
  induction segments generalizing lo with
  | nil => exact h.symm.trans h'
  | cons x rest ih => exact ih h.2 h'.2

/-- Every segment lies in the interval. -/
theorem Tiles.bounds (h : Tiles start size lo segments hi) (hx : x ∈ segments) :
    lo ≤ start x ∧ start x + size x ≤ hi := by
  obtain ⟨pre, post, rfl⟩ := List.append_of_mem hx
  obtain ⟨mid, hpre, hstart, hpost⟩ := tiles_append.mp h
  have hlo := hpre.le
  have hhi := hpost.le
  omega

/-- Segments do not overlap, and come in the order of their starts. -/
theorem Tiles.pairwise (h : Tiles start size lo segments hi) :
    segments.Pairwise fun x y => start x + size x ≤ start y := by
  induction segments generalizing lo with
  | nil => exact List.Pairwise.nil
  | cons x rest ih =>
      refine List.Pairwise.cons (fun y hy => ?_) (ih h.2)
      have hbounds := h.2.bounds hy
      have hstart := h.1
      omega

/-- A segment is apart from those before and after it. -/
theorem Tiles.apart (h : Tiles start size lo (pre ++ x :: post) hi) (hy : y ∈ pre ∨ y ∈ post) :
    start y + size y ≤ start x ∨ start x + size x ≤ start y := by
  obtain ⟨-, hpost, hbetween⟩ := List.pairwise_append.mp h.pairwise
  rcases hy with hy | hy
  · exact Or.inl (hbetween y hy x (List.mem_cons_self ..))
  · exact Or.inr (List.rel_of_pairwise_cons hpost hy)

/-- Where all sizes are multiples of `d`, so are all starts. -/
theorem Tiles.dvd_start {d : ℕ} (h : Tiles start size lo segments hi) (hlo : d ∣ lo)
    (hsizes : ∀ x ∈ segments, d ∣ size x) : ∀ x ∈ segments, d ∣ start x := by
  induction segments generalizing lo with
  | nil => exact fun _ hx => absurd hx List.not_mem_nil
  | cons first rest ih =>
      obtain ⟨hstart, hrest⟩ := h
      rw [List.forall_mem_cons] at hsizes
      intro x hx
      rcases List.mem_cons.mp hx with rfl | hx
      · rwa [hstart]
      · exact ih hrest (Nat.dvd_add hlo hsizes.1) hsizes.2 x hx

/-- The last segment ends where the tiling ends. -/
theorem Tiles.end_eq (h : Tiles start size lo (pre ++ [x]) hi) : start x + size x = hi := by
  obtain ⟨mid, -, hstart, hend⟩ := tiles_append.mp h
  rw [hstart]
  exact hend

/-- Segments with the same starts and sizes tile the same interval. -/
theorem tiles_replace (hstart : start y = start x) (hsize : size y = size x) :
    Tiles start size lo (pre ++ y :: post) hi ↔ Tiles start size lo (pre ++ x :: post) hi := by
  simp only [tiles_append, tiles_cons, hstart, hsize]

/-- Two neighbours and the segment that covers both. -/
theorem tiles_merge (hstart : start z = start x) (hsize : size z = size x + size y)
    (h : Tiles start size lo (pre ++ x :: y :: post) hi) :
    Tiles start size lo (pre ++ z :: post) hi := by
  obtain ⟨mid, hpre, hx, -, hpost⟩ := tiles_append.mp h
  refine tiles_append.mpr ⟨mid, hpre, hstart.trans hx, ?_⟩
  rwa [hsize, ← Nat.add_assoc]

theorem tiles_split (hx : start x = start z) (hy : start y = start z + size x)
    (hsize : size x + size y = size z) (h : Tiles start size lo (pre ++ z :: post) hi) :
    Tiles start size lo (pre ++ x :: y :: post) hi := by
  obtain ⟨mid, hpre, hz, hpost⟩ := tiles_append.mp h
  refine tiles_append.mpr ⟨mid, hpre, hx.trans hz, ?_, ?_⟩
  · rw [hy, hz]
  · rwa [Nat.add_assoc, hsize]

/-! ## Free neighbours -/

section

variable {used : α → Prop}

variable (used) in
/-- Of two neighbours at least one is used. -/
def Coalesced (segments : List α) : Prop :=
  segments.IsChain fun x y => used x ∨ used y

/-- A used segment may stand anywhere. -/
theorem Coalesced.insert_used (hpre : Coalesced used pre) (hpost : Coalesced used post)
    (hx : used x) : Coalesced used (pre ++ x :: post) := by
  refine List.IsChain.append hpre (List.IsChain.cons hpost fun y _ => Or.inl hx) ?_
  intro y _ z hz
  obtain rfl : x = z := by simpa using hz
  exact Or.inr hx

/-- A free segment may stand in front of a used one. -/
theorem Coalesced.cons_free (hpost : Coalesced used post) (hhead : ∀ y ∈ post.head?, used y) :
    Coalesced used (x :: post) :=
  List.IsChain.cons hpost fun y hy => Or.inr (hhead y hy)

theorem Coalesced.head_used (h : Coalesced used (x :: post)) (hx : ¬ used x) :
    ∀ y ∈ post.head?, used y :=
  fun _ hy => (List.IsChain.rel_head? h hy).resolve_left hx

/-- A free segment may stand between two used ones. -/
theorem Coalesced.insert_free (hpre : Coalesced used pre) (hpost : Coalesced used post)
    (hlast : ∀ y ∈ pre.getLast?, used y) (hhead : ∀ y ∈ post.head?, used y) :
    Coalesced used (pre ++ x :: post) := by
  refine List.IsChain.append hpre (Coalesced.cons_free hpost hhead) ?_
  intro y hy z _
  exact Or.inl (hlast y hy)

theorem Coalesced.of_append (h : Coalesced used (pre ++ post)) :
    Coalesced used pre ∧ Coalesced used post :=
  ⟨h.left_of_append, h.right_of_append⟩

/-- The neighbours of a free segment are used. -/
theorem Coalesced.neighbours (h : Coalesced used (pre ++ x :: post)) (hx : ¬ used x) :
    (∀ y ∈ pre.getLast?, used y) ∧ ∀ y ∈ post.head?, used y := by
  obtain ⟨-, hpost, hjoin⟩ := List.isChain_append.mp h
  constructor
  · intro y hy
    exact (hjoin y hy x (by simp)).resolve_right hx
  · exact Coalesced.head_used hpost hx

end

/-! ## Canonical form -/

section

variable {used : α → Bool}

variable (start size used) in
/-- The tiling of some `[lo, hi)` that a set of used segments has. -/
structure Canonical (lo : ℕ) (segments : List α) : Prop where
  tiles : ∃ hi, Tiles start size lo segments hi
  size_pos : ∀ x ∈ segments, 0 < size x
  coalesced : Coalesced (fun x => used x = true) segments
  last_used : ∀ x ∈ segments.getLast?, used x = true

namespace Canonical

theorem start_eq (h : Canonical start size used lo (x :: post)) : start x = lo := by
  obtain ⟨hi, hstart, -⟩ := h.tiles
  exact hstart

theorem tail (h : Canonical start size used lo (x :: post)) :
    Canonical start size used (lo + size x) post where
  tiles := by
    obtain ⟨hi, -, hpost⟩ := h.tiles
    exact ⟨hi, hpost⟩
  size_pos y hy := h.size_pos y (List.mem_cons_of_mem x hy)
  coalesced := h.coalesced.tail
  last_used y hy := by
    cases post with
    | nil => simp at hy
    | cons z rest => exact h.last_used y (by rwa [List.getLast?_cons_cons])

/-- A free segment is followed by a used one. -/
theorem next_used (h : Canonical start size used lo (x :: post)) (hx : used x = false) :
    ∃ y rest, post = y :: rest ∧ used y = true := by
  cases post with
  | nil =>
      have hlast := h.last_used x rfl
      rw [hx] at hlast
      exact absurd hlast (by decide)
  | cons y rest =>
      refine ⟨y, rest, rfl, ?_⟩
      have hne : ¬ used x = true := by rw [hx]; decide
      exact Coalesced.head_used h.coalesced hne y rfl

theorem eq_nil (h : Canonical start size used lo segments) (hnone : segments.filter used = []) :
    segments = [] := by
  cases segments with
  | nil => rfl
  | cons x rest =>
      cases hx : used x with
      | true => simp [hx] at hnone
      | false =>
          obtain ⟨y, rest, rfl, hy⟩ := h.next_used hx
          simp [hx, hy] at hnone

/-- The first used segment of a tiling that starts with a free one starts later. -/
theorem first_used_gt (h : Canonical start size used lo (x :: post)) (hx : used x = false)
    (hfirst : (x :: post).filter used = y :: segments) : lo < start y := by
  obtain ⟨z, rest, rfl, hz⟩ := h.next_used hx
  rw [List.filter_cons_of_neg (by simp [hx]), List.filter_cons_of_pos hz] at hfirst
  obtain ⟨rfl, -⟩ := List.cons.inj hfirst
  rw [h.tail.start_eq]
  exact Nat.lt_add_of_pos_right (h.size_pos x (List.mem_cons_self ..))

/-- Two canonical tilings with the same used segments are the same, where free segments that
start alike and have the same size are. -/
theorem unique (hext : ∀ x y, used x = false → used y = false → start x = start y →
      size x = size y → x = y) {segments' : List α}
    (h : Canonical start size used lo segments) (h' : Canonical start size used lo segments')
    (hused : segments.filter used = segments'.filter used) : segments = segments' := by
  induction segments generalizing lo segments' with
  | nil => exact (h'.eq_nil hused.symm).symm
  | cons x rest ih =>
      cases segments' with
      | nil => exact h.eq_nil hused
      | cons y rest' =>
          have hstart : start x = start y := h.start_eq.trans h'.start_eq.symm
          cases hx : used x with
          | true =>
              cases hy : used y with
              | true =>
                  rw [List.filter_cons_of_pos hx, List.filter_cons_of_pos hy] at hused
                  obtain ⟨rfl, hrest⟩ := List.cons.inj hused
                  rw [ih h.tail h'.tail hrest]
              | false =>
                  rw [List.filter_cons_of_pos hx] at hused
                  have hlt := h'.first_used_gt hy hused.symm
                  have heq := h.start_eq
                  omega
          | false =>
              cases hy : used y with
              | true =>
                  rw [List.filter_cons_of_pos hy] at hused
                  have hlt := h.first_used_gt hx hused
                  have heq := h'.start_eq
                  omega
              | false =>
                  rw [List.filter_cons_of_neg (by simp [hx]),
                    List.filter_cons_of_neg (by simp [hy])] at hused
                  -- both are followed by the same used segment, so they end together
                  obtain ⟨x', tail, hrest, hx'⟩ := h.next_used hx
                  obtain ⟨y', tail', hrest', hy'⟩ := h'.next_used hy
                  have hsame : x' = y' := by
                    rw [hrest, hrest', List.filter_cons_of_pos hx',
                      List.filter_cons_of_pos hy'] at hused
                    exact (List.cons.inj hused).1
                  have hends : lo + size x = lo + size y := by
                    have hend := (hrest ▸ h.tail).start_eq
                    have hend' := (hrest' ▸ h'.tail).start_eq
                    rw [← hend, ← hend', hsame]
                  have hsize : size x = size y := Nat.add_left_cancel hends
                  obtain rfl := hext x y hx hy hstart hsize
                  rw [ih h.tail h'.tail hused]

end Canonical

/-! ## Free segments are gaps -/

variable (start size) in
/-- In front of the first of some blocks or between two of them, `[a, b)` is free, and it cannot be
extended. -/
structure Gap (lo : ℕ) (blocks : List α) (a b : ℕ) : Prop where
  nonempty : a < b
  start_at : a = lo ∨ ∃ x ∈ blocks, start x + size x = a
  stop_at : ∃ x ∈ blocks, start x = b
  clear : ∀ x ∈ blocks, start x + size x ≤ a ∨ b ≤ start x

namespace Canonical

/-- A free segment starts at the beginning or where a used one ends. -/
theorem before_free (h : Canonical start size used lo (pre ++ x :: post)) (hx : used x = false) :
    start x = lo ∨ ∃ y ∈ pre, used y = true ∧ start y + size y = start x := by
  obtain ⟨hi, htiles⟩ := h.tiles
  rcases List.eq_nil_or_concat pre with rfl | ⟨init, y, rfl⟩
  · exact Or.inl htiles.1
  · rw [List.concat_eq_append] at h htiles ⊢
    have hlast := (Coalesced.neighbours h.coalesced (by simp [hx])).1
    obtain ⟨mid, hpre, hstart, -⟩ := tiles_append.mp htiles
    refine Or.inr ⟨y, by simp, hlast y (by simp), ?_⟩
    rw [hpre.end_eq, hstart]

/-- A used one follows it. -/
theorem after_free (h : Canonical start size used lo (pre ++ x :: post)) (hx : used x = false) :
    ∃ y ∈ post, used y = true ∧ start y = start x + size x := by
  obtain ⟨hi, htiles⟩ := h.tiles
  have hhead := (Coalesced.neighbours h.coalesced (by simp [hx])).2
  cases post with
  | nil =>
      have hlast := h.last_used x (by simp)
      rw [hx] at hlast
      exact absurd hlast (by decide)
  | cons y rest =>
      obtain ⟨mid, -, hstart, hnext, -⟩ := tiles_append.mp htiles
      refine ⟨y, List.mem_cons_self .., hhead y rfl, ?_⟩
      rw [hnext, hstart]

theorem gap_of_free (h : Canonical start size used lo segments) (hmem : x ∈ segments)
    (hx : used x = false) :
    Gap start size lo (segments.filter used) (start x) (start x + size x) := by
  have hpos := h.size_pos x hmem
  obtain ⟨hi, htiles⟩ := h.tiles
  obtain ⟨pre, post, rfl⟩ := List.append_of_mem hmem
  refine ⟨by omega, ?_, ?_, ?_⟩
  · refine (h.before_free hx).imp_right fun ⟨y, hy, hused, hend⟩ => ⟨y, ?_, hend⟩
    exact List.mem_filter.mpr ⟨List.mem_append_left _ hy, hused⟩
  · obtain ⟨y, hy, hused, hstart⟩ := h.after_free hx
    refine ⟨y, List.mem_filter.mpr ⟨?_, hused⟩, hstart⟩
    exact List.mem_append_right _ (List.mem_cons_of_mem _ hy)
  · intro y hy
    obtain ⟨hy, hused⟩ := List.mem_filter.mp hy
    have hne : y ≠ x := by
      rintro rfl
      rw [hx] at hused
      exact absurd hused (by decide)
    apply htiles.apart
    rcases List.mem_append.mp hy with hy | hy
    · exact Or.inl hy
    · exact Or.inr ((List.mem_cons.mp hy).resolve_left hne)

theorem free_of_gap (h : Canonical start size used lo segments) {a b : ℕ}
    (hgap : Gap start size lo (segments.filter used) a b) :
    ∃ x ∈ segments, used x = false ∧ start x = a ∧ start x + size x = b := by
  obtain ⟨hlt, hstart, ⟨z, hz, hzstart⟩, hclear⟩ := hgap
  obtain ⟨hz, -⟩ := List.mem_filter.mp hz
  obtain ⟨hi, htiles⟩ := h.tiles
  have hfrom : lo ≤ a := by
    rcases hstart with rfl | ⟨y, hy, hend⟩
    · exact Nat.le_refl _
    · have hbounds := htiles.bounds (List.mem_filter.mp hy).1
      omega
  obtain ⟨pre, post, rfl⟩ := List.append_of_mem hz
  rcases List.eq_nil_or_concat pre with rfl | ⟨init, p, rfl⟩
  · have hzlo := htiles.1
    omega
  rw [List.concat_eq_append] at *
  -- the segment in front of the block at `b` is the one
  have hend : start p + size p = b := by
    obtain ⟨mid, hpre, hnext, -⟩ := tiles_append.mp htiles
    rw [hpre.end_eq, ← hnext, hzstart]
  have hp : p ∈ init ++ [p] ++ z :: post := by simp
  have hpos := h.size_pos p hp
  have hfree : used p = false := by
    cases hused : used p with
    | false => rfl
    | true =>
        have hside := hclear p (List.mem_filter.mpr ⟨hp, hused⟩)
        omega
  refine ⟨p, hp, hfree, ?_, hend⟩
  have happend : init ++ [p] ++ z :: post = init ++ p :: z :: post := by simp
  rw [happend] at h htiles hclear hstart
  -- it starts neither before `a` nor after it
  have hle : start p ≤ a := by
    rcases h.before_free hfree with hlo | ⟨q, hq, hused, hqend⟩
    · omega
    · have hqpos := h.size_pos q (List.mem_append_left _ hq)
      have hside := hclear q (List.mem_filter.mpr ⟨List.mem_append_left _ hq, hused⟩)
      omega
  rcases hstart with hlo | ⟨y, hy, hyend⟩
  · have hbounds := htiles.bounds (x := p) (by simp)
    omega
  · obtain ⟨hy, hused⟩ := List.mem_filter.mp hy
    have hypos := h.size_pos y hy
    have hne : y ≠ p := by
      rintro rfl
      rw [hfree] at hused
      exact absurd hused (by decide)
    have hside : y ∈ init ∨ y ∈ z :: post :=
      (List.mem_append.mp hy).imp_right fun hy => (List.mem_cons.mp hy).resolve_left hne
    have hapart := htiles.apart hside
    omega

/-- The free segments are exactly the gaps between the used ones. -/
theorem free_iff_gap (h : Canonical start size used lo segments) {a b : ℕ} :
    (∃ x ∈ segments, used x = false ∧ start x = a ∧ start x + size x = b) ↔
      Gap start size lo (segments.filter used) a b := by
  refine ⟨?_, h.free_of_gap⟩
  rintro ⟨x, hmem, hx, rfl, rfl⟩
  exact h.gap_of_free hmem hx

end Canonical

end

end Lib.Tiling
