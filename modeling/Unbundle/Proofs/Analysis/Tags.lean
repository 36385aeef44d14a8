import Mathlib.Tactic.Common
import Unbundle.Analysis.Source

/-!
# Which texts are tagged

A mark is looked for in the text in lower case. What a part of the text becomes there depends on the rest
only in the form of a sigma, which stands in no mark.
-/

open List

namespace Unbundle.Text

lemma occursIn_iff {sub cs : List Char} : occursIn sub cs = true ↔ sub <:+: cs := by
  induction cs with
  | nil => simp [occursIn]
  | cons c cs ih => simp [occursIn, ih, infix_cons_iff]

/-! ### Lower case without neighbours -/

/-- The character itself, or the medial sigma for a final one. -/
def medial (c : Char) : Char := if c = 'ς' then 'σ' else c

/-- What a character becomes in lower case, with every sigma in its medial form. -/
def lowerMedial (c : Char) : List Char := if c = 'Σ' then ['σ'] else (lowerChar c).map medial

lemma map_medial_lowerAfter (before cs : List Char) :
    (lowerAfter before cs).map medial = cs.flatMap lowerMedial := by
  induction cs generalizing before with
  | nil => rfl
  | cons c cs ih =>
    rw [lowerAfter, map_append, ih, flatMap_cons, lowerMedial]
    split_ifs <;> rfl

/-- A text without sigmas occurs in another exactly if it does so apart from the form of the sigmas. -/
lemma infix_map_medial_iff {sub cs : List Char} (final : 'ς' ∉ sub) (free : 'σ' ∉ sub) :
    sub <:+: cs.map medial ↔ sub <:+: cs := by
  rw [infix_map_iff]
  constructor
  · rintro ⟨part, inside, rfl⟩
    have same : part.map medial = part.map id := by
      refine map_congr_left fun c hc => if_neg ?_
      rintro rfl
      exact free (mem_map.2 ⟨_, hc, rfl⟩)
    rwa [same, map_id]
  · intro inside
    have same : sub.map medial = sub.map id := by
      refine map_congr_left fun c hc => if_neg ?_
      rintro rfl
      exact final hc
    exact ⟨sub, inside, (same.trans (map_id sub)).symm⟩

lemma lowerMedial_toLower (c : Char) : lowerMedial c.toLower = lowerMedial c := by
  by_cases upper : 65 ≤ c.toNat ∧ c.toNat < 91
  · have all : ∀ n < 26, lowerMedial (Char.ofNat (n + 65)).toLower = lowerMedial (.ofNat (n + 65)) := by decide
    have here := all (c.toNat - 65) (by omega)
    rwa [Nat.sub_add_cancel upper.1, Char.ofNat_toNat] at here
  · have same : c.toLower = c := by
      refine dif_neg fun capital => upper ?_
      have low := UInt32.le_iff_toNat_le.1 capital.1
      have high := UInt32.le_iff_toNat_le.1 capital.2
      exact ⟨low, Nat.lt_succ_of_le high⟩
    rw [same]

end Unbundle.Text

namespace Unbundle.Analysis

open Text (occursIn occursIn_iff lower lowerMedial)

namespace Tag

lemma no_sigma_of_mem_marks (t : Tag) : ∀ m ∈ t.marks, 'ς' ∉ m.toList ∧ 'σ' ∉ m.toList := by
  have plain : (t.marks.all fun m => !m.toList.contains 'ς' && !m.toList.contains 'σ') = true := by cases t <;> cbv
  simpa using plain

/-- A tag fits exactly if one of its marks is in what the characters become, each for itself. -/
lemma fits_lower_iff {t : Tag} {s : List Char} :
    t.fits (lower s) = true ↔ ∃ m ∈ t.marks, m.toList <:+: s.flatMap lowerMedial := by
  simp only [fits, any_eq_true, occursIn_iff]
  refine exists_congr fun m => and_congr_right fun hm => ?_
  obtain ⟨final, free⟩ := t.no_sigma_of_mem_marks m hm
  rw [← Text.infix_map_medial_iff final free, lower, Text.map_medial_lowerAfter]

end Tag

lemma text_mem_tagNames_iff {t : Tag} {s : List Char} : t.text ∈ tagNames s ↔ t.fits (lower s) = true := by
  simp only [tagNames, tags, mem_map, mem_filter]
  constructor
  · rintro ⟨u, ⟨-, fits⟩, same⟩
    obtain rfl : u = t := by cases u <;> cases t <;> first | rfl | exact absurd same (by decide)
    exact fits
  · exact fun fits => ⟨t, ⟨by cases t <;> decide, fits⟩, rfl⟩

/-- A text has the tags of each of its parts, and the case of the letters of ASCII does not matter. -/
theorem tags_grow_and_ignore_case :
    (∀ a s b : List Char, tagNames s ⊆ tagNames (a ++ s ++ b)) ∧
    ∀ s s' : List Char, s.map Char.toLower = s'.map Char.toLower → tagNames s = tagNames s' := by
  constructor
  · intro a s b name tagged
    obtain ⟨t, -, rfl⟩ := List.mem_map.1 tagged
    rw [text_mem_tagNames_iff, Tag.fits_lower_iff] at tagged ⊢
    obtain ⟨m, hm, inside⟩ := tagged
    refine ⟨m, hm, inside.trans ?_⟩
    rw [List.flatMap_append, List.flatMap_append]
    exact List.infix_append _ _ _
  · intro s s' same
    have small (s : List Char) : (s.map Char.toLower).flatMap lowerMedial = s.flatMap lowerMedial := by
      simp only [List.flatMap_map, Text.lowerMedial_toLower]
    have texts : s.flatMap lowerMedial = s'.flatMap lowerMedial := by rw [← small, same, small]
    have fits (t : Tag) : t.fits (lower s) = t.fits (lower s') := by
      rw [Bool.eq_iff_iff, Tag.fits_lower_iff, Tag.fits_lower_iff, texts]
    simp only [tagNames, tags, fits]

theorem tags_grow_and_ignore_case_sdk :
    "Boto3".toList.map Char.toLower = "bOTO3".toList.map Char.toLower ∧
      tagNames "Boto3".toList = tagNames "bOTO3".toList ∧ "AWS_SDK" ∈ tagNames "import Boto3.x".toList :=
  ⟨by decide, tags_grow_and_ignore_case.2 _ _ (by decide),
    tags_grow_and_ignore_case.1 "import ".toList "Boto3".toList ".x".toList
      (text_mem_tagNames_iff.2 (by decide : Tag.sdk.fits (lower "Boto3".toList)))⟩

/-! ### Uploads -/

/-- Two signs of an upload that are run together into one mark. -/
def joinedSigns : List String := ["output_file", "multer"]

/-- What is listed as a sign of an upload. -/
def uploadSigns : List String :=
  Tag.upload.marks.flatMap fun m => if m = String.join joinedSigns then joinedSigns else [m]

lemma mem_marks_upload_iff {m : String} :
    m ∈ Tag.upload.marks ↔ m = .join joinedSigns ∨ m ∈ uploadSigns ∧ m ∉ joinedSigns := by
  have joined : .join joinedSigns ∈ Tag.upload.marks := by decide
  have apart : ∀ m ∈ joinedSigns, m ∉ Tag.upload.marks := by decide
  simp only [uploadSigns]
  grind

lemma not_tagged_joinedSigns : ∀ k ∈ joinedSigns,
    occursIn k.toList (lower k.toList) ∧ "FileUpload" ∉ tagNames k.toList := by
  decide +kernel

/-- A sign of an upload gives the tag wherever it stands, unless it is one of two: these give it only where the one
follows the other, or beside another sign. -/
theorem upload_sign_found_iff {k : String} (listed : k ∈ uploadSigns) :
    ((∀ s, occursIn k.toList (lower s) → "FileUpload" ∈ tagNames s) ↔ k ∉ joinedSigns) ∧
    ∀ s, "FileUpload" ∈ tagNames s ↔ occursIn (String.join joinedSigns).toList (lower s) ∨
      ∃ k ∈ uploadSigns, k ∉ joinedSigns ∧ occursIn k.toList (lower s) := by
  have found (s : List Char) : "FileUpload" ∈ tagNames s ↔ occursIn (String.join joinedSigns).toList (lower s) ∨
      ∃ k ∈ uploadSigns, k ∉ joinedSigns ∧ occursIn k.toList (lower s) := by
    rw [show "FileUpload" = Tag.upload.text from rfl, text_mem_tagNames_iff, Tag.fits, List.any_eq_true]
    simp only [mem_marks_upload_iff]
    grind
  refine ⟨⟨fun always joined => ?_, fun apart s here => ?_⟩, found⟩
  · obtain ⟨here, untagged⟩ := not_tagged_joinedSigns k joined
    exact untagged (always k.toList here)
  · exact (found s).2 (.inr ⟨k, listed, apart, here⟩)

theorem upload_sign_found_iff_formidable : "formidable" ∈ uploadSigns ∧ "formidable" ∉ joinedSigns ∧
    "FileUpload" ∈ tagNames "new Formidable()".toList :=
  ⟨by decide, by decide, (upload_sign_found_iff (by decide)).1.2 (by decide : "formidable" ∉ joinedSigns) _ (by decide)⟩

/-- A sign of an upload that is not found. -/
theorem multer_gives_no_tag : "multer" ∈ uploadSigns ∧ occursIn "multer".toList (lower "multer".toList) ∧
    "FileUpload" ∉ tagNames "multer".toList :=
  ⟨by decide, not_tagged_joinedSigns "multer" (by decide)⟩

end Unbundle.Analysis
