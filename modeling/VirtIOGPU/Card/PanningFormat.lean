import Mathlib.Data.List.Induction
import VirtIOGPU.Card.RowReads

/-!
# The format of the panned bitmap

`chip_SetPanning` gets the format of its bitmap and stores it in `active_format`, which the flush
converts with.  `chip_SetGC` derives a format from the depth of its mode and stores it in the same
field; it leaves the field alone only if it has this format already.  So the bitmap is converted
with its own format up to the first `chip_SetGC` whose depth stands for another one
(`panned_format_kept_iff`).

## Strategy

`AnnouncesPannedFormat` says of the calls what `KeepsPannedFormat` says of the state after each
prefix of them.  The induction adds a call at the end (`formatRun_append`).

```text
call                    format of the bitmap      active_format
SetPanning              the one that it is given  the same
SetPanning with NULL    stays, or is unknown      stays
SetGC, same format      stays                     stays
SetGC, another format   stays                     overwritten
```

Whether a mode change succeeds plays no part: `chip_SetGC` writes the field before it.
-/

namespace VirtIOGPU.Card

/-! ## Runs -/

inductive FormatCall where
  /-- `none`: the mode is `NULL`. -/
  | setGC (mi : Option ModeInfo) (env : ResizeEnv)
  | setPanning (mem : ℕ) (width : UInt16) (xOff yOff : Int16) (format : RgbFormat)

/-- `chip_SetGC` returns at once without a mode. -/
def formatStep (c : CardState) : FormatCall → CardState
  | .setGC none _ => c
  | .setGC (some mi) env => (chipSetGC mi env c).2
  | .setPanning mem width xOff yOff format => (chipSetPanning mem width xOff yOff format c).2

def formatRun (c : CardState) (calls : List FormatCall) : CardState := calls.foldl formatStep c

/-- What a call says of the bitmap that is shown.  A `NULL` bitmap changes nothing in the driver;
`nullEnds` says whether nothing is expected of the format after it. -/
def FormatCall.panned (nullEnds : Bool) : FormatCall → Option (Option RgbFormat)
  | .setGC _ _ => none
  | .setPanning mem _ _ _ format =>
      if mem ≠ 0 then some (some format) else if nullEnds then some none else none

/-- The format that the last `chip_SetPanning` gave. -/
def lastPanned (nullEnds : Bool) (calls : List FormatCall) : Option RgbFormat :=
  (calls.filterMap (FormatCall.panned nullEnds)).getLast?.join

/-- After each of these calls the bitmap that is shown is converted with its own format. -/
def KeepsPannedFormat (nullEnds : Bool) (c : CardState) (calls : List FormatCall) : Prop :=
  ∀ done, done <+: calls → ∀ format, lastPanned nullEnds done = some format →
    ∀ gs, (formatRun c done).gs = some gs → gs.activeFormat = format

/-- Every mode that is announced while a bitmap is shown has a depth that stands for the format of
the bitmap. -/
def AnnouncesPannedFormat (nullEnds : Bool) (calls : List FormatCall) : Prop :=
  ∀ done mi env, done ++ [.setGC (some mi) env] <+: calls →
    ∀ format, lastPanned nullEnds done = some format → gcFormat mi.depth = format

/-! ## Single calls -/

variable {gs : GpuState} {c : CardState}

/-- Whatever `chip_SetGC` does, `active_format` stands for the depth of the mode afterwards. -/
theorem chipSetGC_format (mi : ModeInfo) (env : ResizeEnv) (hgs : c.gs = some gs) :
    ∃ gs', (chipSetGC mi env c).2.gs = some gs' ∧ gs'.activeFormat = gcFormat mi.depth := by
  obtain ⟨gs', hgs', -, -, -, -, hformat⟩ := chipSetGC_panning ⟨mi, env⟩ hgs
  exact ⟨gs', hgs', hformat⟩

theorem chipSetPanning_format (mem : ℕ) (width : UInt16) (xOff yOff : Int16) (format : RgbFormat)
    (hgs : c.gs = some gs) :
    ∃ gs', (chipSetPanning mem width xOff yOff format c).2.gs = some gs' ∧
      gs'.activeFormat = if mem ≠ 0 then format else gs.activeFormat := by
  unfold chipSetPanning withChipState Lib.Hoare.onlyIf
  rw [hgs]
  by_cases hmem : mem = 0
  · simp only [if_neg (not_not_intro hmem)]
    exact ⟨gs, hgs, rfl⟩
  · simp only [if_pos hmem]
    exact ⟨_, rfl, rfl⟩

theorem lastPanned_append (nullEnds : Bool) (done : List FormatCall) (call : FormatCall) :
    lastPanned nullEnds (done ++ [call]) =
      (call.panned nullEnds).getD (lastPanned nullEnds done) := by
  unfold lastPanned
  rw [List.filterMap_append, List.getLast?_append]
  cases hpanned : call.panned nullEnds with
  | none => simp [hpanned]
  | some shown => simp [hpanned]

theorem formatRun_append (c : CardState) (done : List FormatCall) (call : FormatCall) :
    formatRun c (done ++ [call]) = formatStep (formatRun c done) call := by
  rw [formatRun, List.foldl_append]
  rfl

theorem formatRun_gs (hgs : c.gs = some gs) (calls : List FormatCall) :
    ∃ gs', (formatRun c calls).gs = some gs' := by
  induction calls using List.reverseRecOn with
  | nil => exact ⟨gs, hgs⟩
  | append_singleton done call ih =>
      obtain ⟨gs', hgs'⟩ := ih
      rw [formatRun_append]
      cases call with
      | setGC mi env =>
          cases mi with
          | none => exact ⟨gs', hgs'⟩
          | some mi =>
              obtain ⟨gs'', hgs'', -⟩ := chipSetGC_format mi env hgs'
              exact ⟨gs'', hgs''⟩
      | setPanning mem width xOff yOff format =>
          obtain ⟨gs'', hgs'', -⟩ := chipSetPanning_format mem width xOff yOff format hgs'
          exact ⟨gs'', hgs''⟩

/-! ## Whole runs -/

theorem AnnouncesPannedFormat.keeps {nullEnds : Bool} {calls : List FormatCall}
    (h : AnnouncesPannedFormat nullEnds calls) (hgs : c.gs = some gs) :
    KeepsPannedFormat nullEnds c calls := by
  intro done hdone
  induction done using List.reverseRecOn with
  | nil => exact fun format hformat => absurd hformat (by simp [lastPanned])
  | append_singleton done call ih =>
      have hbefore := ih ((List.prefix_append done [call]).trans hdone)
      obtain ⟨gs', hgs'⟩ := formatRun_gs hgs done
      intro format hformat t ht
      rw [lastPanned_append] at hformat
      rw [formatRun_append] at ht
      cases call with
      | setGC mi env =>
          -- the format is that of an earlier bitmap
          have hearlier : lastPanned nullEnds done = some format := hformat
          cases mi with
          | none => exact hbefore format hearlier t ht
          | some mi =>
              obtain ⟨gs'', hgs'', hgc⟩ := chipSetGC_format mi env hgs'
              obtain rfl := Option.some.inj (hgs''.symm.trans ht)
              exact hgc.trans (h done mi env hdone format hearlier)
      | setPanning mem width xOff yOff given =>
          -- the bitmap is a new one, unless it is `NULL`
          obtain ⟨gs'', hgs'', hpanning⟩ :=
            chipSetPanning_format mem width xOff yOff given hgs'
          obtain rfl := Option.some.inj (hgs''.symm.trans ht)
          rw [hpanning]
          by_cases hmem : mem ≠ 0
          · rw [FormatCall.panned, if_pos hmem, Option.getD_some] at hformat
            rw [if_pos hmem]
            exact Option.some.inj hformat
          · rw [FormatCall.panned, if_neg hmem] at hformat
            rw [if_neg hmem]
            cases nullEnds with
            | true => cases hformat
            | false => exact hbefore format hformat gs' hgs'

/-- In every run of the two callbacks the flush converts each bitmap with the format that
`chip_SetPanning` gave, if and only if no `chip_SetGC` in between announces a depth that stands for
another format; whether the next `chip_SetPanning` is any one, or only one with a bitmap. -/
theorem panned_format_kept_iff (hgs : c.gs = some gs) (nullEnds : Bool) (calls : List FormatCall) :
    KeepsPannedFormat nullEnds c calls ↔ AnnouncesPannedFormat nullEnds calls := by
  constructor
  · intro h done mi env hdone format hformat
    obtain ⟨gs', hgs'⟩ := formatRun_gs hgs done
    obtain ⟨gs'', hgs'', hgc⟩ := chipSetGC_format mi env hgs'
    have hlast : lastPanned nullEnds (done ++ [.setGC (some mi) env]) = some format := by
      rw [lastPanned_append]
      exact hformat
    have hafter : (formatRun c (done ++ [.setGC (some mi) env])).gs = some gs'' := by
      rw [formatRun_append]
      exact hgs''
    exact hgc.symm.trans (h _ hdone format hlast gs'' hafter)
  · exact fun h => h.keeps hgs

def mode32 : FormatCall := .setGC (some ⟨1024, 768, 32⟩) (.commandsDone true 1 true true)

/-- A bitmap in the format that 32 bits stand for, and a mode of 32 bits. -/
theorem panned_format_kept_iff_a8r8g8b8 :
    KeepsPannedFormat true (chipInitCard false .working .start).2
      [.setPanning 100 1024 0 0 .a8r8g8b8, mode32] := by
  obtain ⟨gs, hready⟩ := init_ready working_init
  refine (panned_format_kept_iff hready.state true _).mpr ?_
  rintro done mi env ⟨rest, hcalls⟩ format hformat
  match done with
  | [] => cases (List.cons.inj hcalls).1
  | [first] =>
      have hrest := List.cons.inj hcalls
      obtain ⟨hmode, -⟩ := List.cons.inj hrest.2
      rw [hrest.1] at hformat
      obtain rfl : .a8r8g8b8 = format := Option.some.inj hformat
      obtain ⟨hmi, -⟩ := FormatCall.setGC.inj hmode
      rw [Option.some.inj hmi]
      rfl
  | first :: second :: _ =>
      have hlength := congrArg List.length hcalls
      simp at hlength

/-- The mode is announced again while a bitmap of the same size and depth in another format is
shown: from then on its colours are taken for those of `RGBFB_A8R8G8B8`. -/
theorem panned_format_overwritten :
    ¬ ∃ nullEnds, ∀ calls,
      KeepsPannedFormat nullEnds (chipInitCard false .working .start).2 calls := by
  rintro ⟨nullEnds, h⟩
  let calls : List FormatCall := [mode32, .setPanning 100 1024 0 0 .b8g8r8a8, mode32]
  have hafter : (formatRun (chipInitCard false .working .start).2 calls).gs.any
      (fun gs => gs.activeFormat = .a8r8g8b8) = true := by
    decide +kernel
  obtain ⟨gs, hgs, hformat⟩ := (Option.any_eq_true _ _).mp hafter
  have hpanned : lastPanned nullEnds calls = some .b8g8r8a8 := by
    cases nullEnds <;> rfl
  have hkept := h calls calls List.prefix_rfl .b8g8r8a8 hpanned gs hgs
  rw [of_decide_eq_true hformat] at hkept
  cases hkept

end VirtIOGPU.Card
