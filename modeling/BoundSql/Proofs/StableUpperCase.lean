import BoundSql.Text.Blank
import BoundSql.Text.Case
import Mathlib.Data.List.Basic

/-!
# Upper case is stable

A text in upper case is its own upper case, although a character may become several: none of the
characters that upper cases are made of has another upper case. None of them is blank either, so
the words of a text stay apart in upper case, and none of them vanishes. ASCII letters that
differ in case have the same upper case.
-/

namespace BoundSql.Text

/-- The code points that a run maps. -/
def CaseRun.codes (run : CaseRun) : List Nat :=
  (List.range ((run.last - run.first) / run.stride + 1)).map fun i => run.first + run.stride * i

/-- The code points that they are mapped to. -/
def CaseRun.images (run : CaseRun) : List Nat :=
  run.codes.map fun n : Nat => ((n : Int) + run.shift).toNat

/-- The code points of the characters that have another upper case. -/
def changedCodes : List Nat :=
  upperRuns.flatMap CaseRun.codes ++ upperExpansions.map Prod.fst

/-- The code points that these upper cases are made of. -/
def upperCodes : List Nat :=
  upperRuns.flatMap CaseRun.images ++ upperExpansions.flatMap Prod.snd

/-- The code points of blanks. -/
def blankCodes : List Nat :=
  blankRanges.flatMap fun r => List.range' r.1 (r.2 + 1 - r.1)

/-- Code points as the bits of one number, in which each of them is found in one step. -/
def codeSet : List Nat → Nat
  | [] => 0
  | n :: rest => 1 <<< n ||| codeSet rest

/-- The bits are those of the code points. -/
theorem testBit_codeSet (codes : List Nat) (n : Nat) :
    (codeSet codes).testBit n = true ↔ n ∈ codes := by
  induction codes with
  | nil => simp [codeSet]
  | cons m rest ih =>
    rw [codeSet, Nat.testBit_or, Nat.one_shiftLeft, Nat.testBit_two_pow, Bool.or_eq_true, decide_eq_true_eq, ih,
      List.mem_cons, eq_comm]

/-- What a run maps is among its code points, and the image is among those that they are mapped
to. -/
theorem CaseRun.mem_codes_of_image? {run : CaseRun} {n m : Nat} (h : run.image? n = some m) :
    n ∈ run.codes ∧ m ∈ run.images := by
  unfold CaseRun.image? at h
  split at h
  · next hrun =>
    cases h
    simp only [Bool.and_eq_true, decide_eq_true_eq, beq_iff_eq] at hrun
    obtain ⟨⟨hfirst, hlast⟩, hstride⟩ := hrun
    have hstep : n = run.first + run.stride * ((n - run.first) / run.stride) := by
      have hdiv := Nat.div_add_mod (n - run.first) run.stride
      omega
    have hcount : (n - run.first) / run.stride ≤ (run.last - run.first) / run.stride :=
      Nat.div_le_div_right (by omega)
    have hcode : n ∈ run.codes :=
      List.mem_map.2 ⟨_, List.mem_range.2 (by omega), hstep.symm⟩
    exact ⟨hcode, List.mem_map.2 ⟨n, hcode, rfl⟩⟩
  · cases h

/-- The runs of upper cases map such a code point to such a code point. -/
theorem mem_codes_of_runImage? {n m : Nat} (h : runImage? upperRuns n = some m) :
    n ∈ changedCodes ∧ m ∈ upperCodes := by
  obtain ⟨run, hrun, himage⟩ := List.exists_of_findSome?_eq_some h
  obtain ⟨hcode, hmapped⟩ := CaseRun.mem_codes_of_image? himage
  exact ⟨List.mem_append_left _ (List.mem_flatMap.2 ⟨run, hrun, hcode⟩),
    List.mem_append_left _ (List.mem_flatMap.2 ⟨run, hrun, hmapped⟩)⟩

/-- The character of a code point has this code point, or the code point zero when no
character has it. -/
theorem toNat_ofNat_mem (m : Nat) : (Char.ofNat m).toNat ∈ [0, m] := by
  by_cases hvalid : m.isValidChar
  · have hcode : (Char.ofNat m).toNat = m := congrArg Char.toNat (dif_pos hvalid)
    rw [hcode]
    exact List.mem_cons_of_mem 0 (List.mem_singleton_self m)
  · have hnone : (Char.ofNat m).toNat = 0 := congrArg Char.toNat (dif_neg hvalid)
    rw [hnone]
    exact List.mem_cons_self

/-- The tables, looked through code point by code point. -/
theorem all_upperCodes_apart :
    ((0 :: upperCodes).all fun m => !(codeSet (changedCodes ++ blankCodes)).testBit m) = true := by
  decide +kernel

/-- None of the code points that upper cases are made of has another upper case or is blank. -/
theorem not_mem_of_mem_upperCodes {m : Nat} (hm : m ∈ 0 :: upperCodes) :
    m ∉ changedCodes ∧ m ∉ blankCodes := by
  have hbit := List.all_eq_true.1 all_upperCodes_apart m hm
  rw [Bool.not_eq_true', ← Bool.not_eq_true, testBit_codeSet, List.mem_append, not_or] at hbit
  exact hbit

/-- The blanks are the characters with these code points. -/
theorem isBlank_iff_mem_blankCodes (c : Char) : isBlank c = true ↔ c.toNat ∈ blankCodes := by
  unfold isBlank blankCodes
  rw [inRanges_iff, List.mem_flatMap]
  refine exists_congr fun r => and_congr_right fun _ => ?_
  rw [List.mem_range'_1]
  omega

/-- Every other character is its own upper case. -/
theorem upperChar_of_not_mem {c : Char} (h : c.toNat ∉ changedCodes) : upperChar c = [c] := by
  have hexpansion : upperExpansions.lookup c.toNat = none := by
    refine List.lookup_eq_none_iff.2 fun e he => bne_iff_ne.2 ?_
    rintro hcode
    exact h (List.mem_append_right _ (hcode ▸ List.mem_map_of_mem he))
  have hrun : runImage? upperRuns c.toNat = none := by
    refine Option.eq_none_iff_forall_ne_some.2 ?_
    intro m hm
    exact h (mem_codes_of_runImage? hm).1
  unfold upperChar mappedChar
  rw [hexpansion, hrun]

/-- An upper case is the character itself, or made of the characters of these code points. -/
theorem upperChar_cases (c : Char) :
    upperChar c = [c] ∨
      upperChar c ≠ [] ∧ ∀ d ∈ upperChar c, ∃ m ∈ upperCodes, d = Char.ofNat m := by
  have hfull : (upperExpansions.all fun e => !e.2.isEmpty) = true := by decide +kernel
  unfold upperChar mappedChar
  split
  · next image hlookup =>
    obtain ⟨front, back, hsplit, -⟩ := List.lookup_eq_some_iff.1 hlookup
    have hmem : (c.toNat, image) ∈ upperExpansions := by
      rw [hsplit]
      exact List.mem_append_right front List.mem_cons_self
    have hne : image ≠ [] := by simpa using List.all_eq_true.1 hfull _ hmem
    refine .inr ⟨by simpa using hne, ?_⟩
    intro d hd
    obtain ⟨m, hm, rfl⟩ := List.mem_map.1 hd
    exact ⟨m, List.mem_append_right _ (List.mem_flatMap.2 ⟨_, hmem, hm⟩), rfl⟩
  · split
    · next m hrun =>
      refine .inr ⟨List.cons_ne_nil _ _, ?_⟩
      intro d hd
      exact ⟨m, (mem_codes_of_runImage? hrun).2, List.mem_singleton.1 hd⟩
    · exact .inl rfl

/-- A character of an upper case is that of which it is the upper case, or is neither one with
another upper case nor a blank. -/
theorem eq_or_not_mem_of_mem_upperChar {c d : Char} (hd : d ∈ upperChar c) :
    upperChar c = [c] ∧ d = c ∨ d.toNat ∉ changedCodes ∧ d.toNat ∉ blankCodes := by
  rcases upperChar_cases c with hsame | ⟨-, hcodes⟩
  · rw [hsame] at hd
    exact .inl ⟨hsame, List.mem_singleton.1 hd⟩
  · obtain ⟨m, hm, rfl⟩ := hcodes d hd
    refine .inr (not_mem_of_mem_upperCodes ?_)
    rcases List.mem_cons.1 (toNat_ofNat_mem m) with hzero | hcode
    · rw [hzero]
      exact List.mem_cons_self
    · rw [List.mem_singleton.1 hcode]
      exact List.mem_cons_of_mem 0 hm

/-- A character of an upper case is its own upper case. -/
theorem upperChar_of_mem_upperChar {c d : Char} (hd : d ∈ upperChar c) : upperChar d = [d] := by
  rcases eq_or_not_mem_of_mem_upperChar hd with ⟨hsame, rfl⟩ | ⟨hcode, -⟩
  · exact hsame
  · exact upperChar_of_not_mem hcode

/-- A character that is not blank has no blank in its upper case. -/
theorem isBlank_of_mem_upperChar {c d : Char} (hc : isBlank c = false) (hd : d ∈ upperChar c) :
    isBlank d = false := by
  rcases eq_or_not_mem_of_mem_upperChar hd with ⟨-, rfl⟩ | ⟨-, hcode⟩
  · exact hc
  · rw [← Bool.not_eq_true, isBlank_iff_mem_blankCodes]
    exact hcode

/-- No character vanishes in upper case. -/
theorem upperChar_ne_nil (c : Char) : upperChar c ≠ [] := by
  rcases upperChar_cases c with hsame | ⟨hne, -⟩
  · rw [hsame]
    exact List.cons_ne_nil c []
  · exact hne

/-- A text in upper case is its own upper case. -/
theorem upper_upper (text : List Char) : upper (upper text) = upper text := by
  have hstable : ∀ s : List Char, (∀ d ∈ s, upperChar d = [d]) → upper s = s := by
    intro s hs
    induction s with
    | nil => rfl
    | cons d rest ih =>
      obtain ⟨hd, hrest⟩ := List.forall_mem_cons.1 hs
      change upperChar d ++ upper rest = d :: rest
      rw [hd, ih hrest]
      rfl
  refine hstable _ ?_
  intro d hd
  obtain ⟨c, -, hc⟩ := List.mem_flatMap.1 hd
  exact upperChar_of_mem_upperChar hc

/-- A text without blanks has none in upper case. -/
theorem isBlank_of_mem_upper {text : List Char} (h : ∀ c ∈ text, isBlank c = false) :
    ∀ d ∈ upper text, isBlank d = false := by
  intro d hd
  obtain ⟨c, hc, hmem⟩ := List.mem_flatMap.1 hd
  exact isBlank_of_mem_upperChar (h c hc) hmem

/-- A text that is not empty is not empty in upper case. -/
theorem upper_ne_nil {text : List Char} (h : text ≠ []) : upper text ≠ [] := by
  cases text with
  | nil => exact absurd rfl h
  | cons c rest =>
    intro hnil
    exact upperChar_ne_nil c (List.append_eq_nil_iff.1 hnil).1

/-- The code point of a small ASCII letter is mapped to that of its capital letter. -/
theorem runImage?_of_small {n : Nat} (hfirst : 97 ≤ n) (hlast : n ≤ 122) :
    runImage? upperRuns n = some (n - 32) := by
  have hletters : CaseRun.image? ⟨0x61, 0x7A, 1, -32⟩ n = some (n - 32) := by
    have himage : ((n : Int) + -32).toNat = n - 32 := by omega
    simp [CaseRun.image?, hfirst, hlast, himage, Nat.mod_one]
  unfold runImage? upperRuns
  rw [List.findSome?_cons, hletters]

/-- An ASCII letter has the upper case of its small letter. -/
theorem upperChar_toLower (c : Char) : upperChar c.toLower = upperChar c := by
  by_cases hupper : c.val ≥ 'A'.val ∧ c.val ≤ 'Z'.val
  · have hfirst : 65 ≤ c.toNat := hupper.1
    have hlast : c.toNat ≤ 90 := hupper.2
    have hsmall : c.toLower.toNat = c.toNat + 32 := by
      have hcode : c.toLower.toNat = (c.toNat + 32) % 4294967296 :=
        congrArg Char.toNat (dif_pos hupper)
      rw [hcode]
      exact Nat.mod_eq_of_lt (by omega)
    have himage := runImage?_of_small (n := c.toLower.toNat) (by omega) (by omega)
    have hback : c.toLower.toNat - 32 = c.toNat := by omega
    rw [hback] at himage
    have hlookup : upperExpansions.lookup c.toLower.toNat = none := by
      have hexpansions : (upperExpansions.all fun e => 122 < e.1) = true := by decide
      refine List.lookup_eq_none_iff.2 fun e he => bne_iff_ne.2 ?_
      have hbeyond := of_decide_eq_true (List.all_eq_true.1 hexpansions e he)
      omega
    have hcode := List.mem_cons_of_mem 0 (mem_codes_of_runImage? himage).2
    rw [upperChar_of_not_mem (not_mem_of_mem_upperCodes hcode).1]
    unfold upperChar mappedChar
    rw [hlookup, himage]
    exact congrArg (fun d => [d]) (Char.ofNat_toNat c)
  · have hlower : c.toLower = c := dif_neg hupper
    rw [hlower]

/-- Texts that differ only in the case of ASCII letters have the same upper case. -/
theorem upper_eq_of_map_toLower_eq {s t : List Char} (h : s.map Char.toLower = t.map Char.toLower) :
    upper s = upper t := by
  have hlower : ∀ text : List Char, upper (text.map Char.toLower) = upper text := by
    intro text
    unfold upper
    rw [List.flatMap_map]
    exact List.flatMap_congr fun c _ => upperChar_toLower c
  rw [← hlower s, h, hlower t]

end BoundSql.Text
