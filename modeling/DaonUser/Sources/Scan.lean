import DaonUser.Lib.Pieces
import DaonUser.Lib.Utf8
import Mathlib.Data.List.Infix

/-!
# The scan of a part for declarations

The readers of workbooks, documents and presentations read a part of their package in chunks, and refuse it
before the parser is fed a declaration. Each keeps 32 bytes of what it scanned, so that the chunks do not
matter: the scan refuses what a scan of the whole part would (`readPart_spec`).
-/

namespace DaonUser.Sources

open Lib

structure Scan where
  fold : UInt8 → UInt8
  markers : List (List UInt8)
  limit : Nat
  /-- The code of a part that is too long. -/
  bomb : String

/-- `bytes.lower` of a byte. -/
def lower (b : UInt8) : UInt8 := if 65 ≤ b ∧ b ≤ 90 then b + 32 else b

/-- `bytes.upper` of a byte. -/
def upper (b : UInt8) : UInt8 := if 97 ≤ b ∧ b ≤ 122 then b - 32 else b

/-- `_xml_records` of `xlsx_source`. -/
def xlsxScan : Scan where
  fold := lower
  markers := [utf8 "<!doctype".toList, utf8 "<!entity".toList]
  limit := 32 * 1024 * 1024
  bomb := "COMPRESSION_BOMB"

/-- `_package` of `docx_source`. -/
def docxScan : Scan where
  fold := upper
  markers := [utf8 "<!DOCTYPE".toList, utf8 "<!ENTITY".toList]
  limit := 32 * 1024 * 1024
  bomb := "CORRUPTED_SOURCE"

/-- `_package` of `pptx_source`. -/
def pptxScan : Scan where
  fold := upper
  markers := [utf8 "<!DOCTYPE".toList, utf8 "<!ENTITY".toList]
  limit := 32 * 1024 * 1024
  bomb := "CORRUPTED_SOURCE"

def scans : List Scan := [xlsxScan, docxScan, pptxScan]

/-- Which check refuses a part, with the code of its `SourceRejected`. -/
inductive PartRefusal where
  | size (code : String)
  | declaration
  /-- The parser, or a check of the elements that it found. -/
  | parser (code : String)
  deriving DecidableEq

/-- What is scanned of some bytes: without the NULs of wider encodings, in the reader's case. -/
def Scan.text (r : Scan) (bytes : List UInt8) : List UInt8 := (bytes.filter (· ≠ 0)).map r.fold

variable {σ : Type}

/-- The loop over the chunks of a part: `feed` is the parser with the checks of what it finds, `scan` the end
of what was scanned before, and `total` counts the bytes over all parts. -/
def Scan.readPart (r : Scan) (feed : σ → List UInt8 → Except String σ) (total : Nat)
    (scan : List UInt8) (s : σ) : List (List UInt8) → Except PartRefusal (Nat × σ)
  | [] => .ok (total, s)
  | chunk :: chunks =>
    if chunk = [] then .ok (total, s)
    else if r.limit < total + chunk.length then .error (.size r.bomb)
    else
      let check := scan ++ r.text chunk
      if ∃ m ∈ r.markers, m <:+: check then .error .declaration
      else match feed s chunk with
        | .error code => .error (.parser code)
        | .ok s => r.readPart feed (total + chunk.length) (check.rtake 32) s chunks

/-- The whole content has a declaration. -/
def Scan.Declares (r : Scan) (content : List UInt8) : Prop := ∃ m ∈ r.markers, m <:+: r.text content

instance (r : Scan) (content : List UInt8) : Decidable (r.Declares content) :=
  inferInstanceAs (Decidable (∃ m ∈ r.markers, m <:+: r.text content))

def Scan.unscanned (r : Scan) : Scan := { r with markers := [] }

section

variable {r : Scan} {feed : σ → List UInt8 → Except String σ}

theorem Scan.text_append (r : Scan) (a b : List UInt8) : r.text (a ++ b) = r.text a ++ r.text b := by
  simp [Scan.text]

theorem Scan.Declares.append {a : List UInt8} (h : r.Declares a) (b : List UInt8) :
    r.Declares (a ++ b) := by
  obtain ⟨m, hm, h⟩ := h
  refine ⟨m, hm, ?_⟩
  rw [r.text_append]
  exact List.infix_append_of_infix_left h

theorem Scan.declares_append (hr : ∀ m ∈ r.markers, m.length ≤ 33) {seen : List UInt8}
    (hseen : ¬ r.Declares seen) (chunk : List UInt8) :
    r.Declares (seen ++ chunk) ↔ ∃ m ∈ r.markers, m <:+: (r.text seen).rtake 32 ++ r.text chunk := by
  have hno : ∀ m ∈ r.markers, ¬ m <:+: r.text seen := fun m hm h => hseen ⟨m, hm, h⟩
  unfold Scan.Declares
  rw [r.text_append]
  constructor
  · rintro ⟨m, hm, h⟩
    exact ⟨m, hm, ((infix_append_iff (hr m hm)).mp h).resolve_left (hno m hm)⟩
  · rintro ⟨m, hm, h⟩
    exact ⟨m, hm, (infix_append_iff (hr m hm)).mpr (.inr h)⟩

theorem Scan.unscanned_cons (total : Nat) (scan : List UInt8) (s : σ) (chunk : List UInt8)
    (chunks : List (List UInt8)) :
    r.unscanned.readPart feed total scan s (chunk :: chunks) =
      if chunk = [] then .ok (total, s)
      else if r.limit < total + chunk.length then .error (.size r.bomb)
      else match feed s chunk with
        | .error code => .error (.parser code)
        | .ok s => r.unscanned.readPart feed (total + chunk.length)
            ((scan ++ r.text chunk).rtake 32) s chunks := by
  rw [Scan.readPart]
  congr 2

theorem Scan.readPart_of_not_declares (hr : ∀ m ∈ r.markers, m.length ≤ 33) (chunks : List (List UInt8))
    (total : Nat) (seen tail' : List UInt8) (s : σ) (h : ¬ r.Declares (seen ++ chunks.flatten)) :
    r.readPart feed total ((r.text seen).rtake 32) s chunks =
      r.unscanned.readPart feed total tail' s chunks := by
  induction chunks generalizing total seen tail' s with
  | nil => rfl
  | cons chunk chunks ih =>
    rw [List.flatten_cons, ← List.append_assoc] at h
    have hnow : ¬ r.Declares (seen ++ chunk) := fun hd => h (hd.append _)
    have hwin := mt (r.declares_append hr (fun hd => hnow (hd.append _)) chunk).mpr hnow
    rw [Scan.unscanned_cons, Scan.readPart, if_neg hwin, rtake_append_rtake, ← r.text_append]
    congr 2
    cases feed s chunk with
    | error code => rfl
    | ok s => exact ih _ _ _ _ h

theorem Scan.readPart_of_declares (hr : ∀ m ∈ r.markers, m.length ≤ 33) (chunks : List (List UInt8))
    (hne : ∀ c ∈ chunks, c ≠ []) (total : Nat) (seen tail' : List UInt8) (s : σ)
    (hseen : ¬ r.Declares seen) (h : r.Declares (seen ++ chunks.flatten)) :
    ∃ e, r.readPart feed total ((r.text seen).rtake 32) s chunks = .error e ∧
      (e = .declaration ∨ r.unscanned.readPart feed total tail' s chunks = .error e) := by
  induction chunks generalizing total seen tail' s with
  | nil => exact absurd (by simpa using h) hseen
  | cons chunk chunks ih =>
    rw [List.flatten_cons, ← List.append_assoc] at h
    have hwin := r.declares_append hr hseen chunk
    rw [Scan.unscanned_cons, Scan.readPart, if_neg (hne chunk (by simp)), if_neg (hne chunk (by simp))]
    by_cases hsize : r.limit < total + chunk.length
    · exact ⟨_, if_pos hsize, .inr (if_pos hsize)⟩
    · rw [if_neg hsize]
      by_cases hnow : r.Declares (seen ++ chunk)
      · exact ⟨_, if_pos (hwin.mp hnow), .inl rfl⟩
      · rw [if_neg (mt hwin.mpr hnow), rtake_append_rtake, ← r.text_append]
        rw [if_neg hsize]
        cases feed s chunk with
        | error code => exact ⟨_, rfl, .inr rfl⟩
        | ok s => exact ih (fun c hc => hne c (List.mem_cons_of_mem _ hc)) _ _ _ _ hnow h

end

theorem length_marker {r : Scan} (hr : r ∈ scans) : ∀ m ∈ r.markers, m.length ≤ 33 := by
  have h : (scans.all fun r => r.markers.all fun m => m.length ≤ 33) = true := by decide
  simpa using fun m hm => List.all_eq_true.mp (List.all_eq_true.mp h r hr) m hm

theorem not_declares_nil {r : Scan} (hr : r ∈ scans) : ¬ r.Declares [] := by
  have h : (scans.all fun r => ! decide (r.Declares [])) = true := by decide
  simpa using List.all_eq_true.mp h r hr

/-- However a part is delivered, the scan refuses it exactly if the whole part has a declaration and no other
check refuses it before: without a declaration the scan changes nothing, with one the part is refused. -/
theorem readPart_spec {r : Scan} (hr : r ∈ scans) (feed : σ → List UInt8 → Except String σ) (total : Nat)
    (s : σ) (chunks : List (List UInt8)) (hne : ∀ c ∈ chunks, c ≠ []) :
    (¬ r.Declares chunks.flatten →
      r.readPart feed total [] s chunks = r.unscanned.readPart feed total [] s chunks) ∧
    (r.Declares chunks.flatten → ∃ e, r.readPart feed total [] s chunks = .error e ∧
      (e = .declaration ∨ r.unscanned.readPart feed total [] s chunks = .error e)) ∧
    (∀ x, r.unscanned.readPart feed total [] s chunks = .ok x →
      (r.readPart feed total [] s chunks = .error .declaration ↔ r.Declares chunks.flatten)) := by
  have hlen := length_marker hr
  have hclean : ¬ r.Declares chunks.flatten →
      r.readPart feed total [] s chunks = r.unscanned.readPart feed total [] s chunks :=
    fun h => r.readPart_of_not_declares hlen chunks total [] [] s h
  have hdecl : r.Declares chunks.flatten → ∃ e, r.readPart feed total [] s chunks = .error e ∧
      (e = .declaration ∨ r.unscanned.readPart feed total [] s chunks = .error e) :=
    fun h => r.readPart_of_declares hlen chunks hne total [] [] s (not_declares_nil hr) h
  refine ⟨hclean, hdecl, fun x hx => ⟨fun h => ?_, fun h => ?_⟩⟩
  · by_contra hno
    rw [hclean hno, hx] at h
    exact nomatch h
  · obtain ⟨e, he, rfl | hother⟩ := hdecl h
    · exact he
    · rw [hx] at hother
      exact nomatch hother

/-- A declaration in two deliveries of one part, between two chunks and in one. -/
theorem readPart_spec_split :
    xlsxScan.readPart (fun n c => .ok (n + c.length)) 0 [] 0
        [utf8 "<?xml?><!doc".toList, utf8 "TYPE a>".toList] = .error .declaration ∧
      xlsxScan.readPart (fun n c => .ok (n + c.length)) 0 [] 0
        [utf8 "<?xml?><!docTYPE a>".toList] = .error .declaration := by
  have hxlsx : xlsxScan ∈ scans := List.mem_cons_self
  have hmark : xlsxScan.Declares (utf8 "<?xml?><!docTYPE a>".toList) := by decide +kernel
  constructor
  · exact ((readPart_spec hxlsx _ 0 0 _ (by decide +kernel)).2.2 (19, 19) (by decide +kernel)).mpr hmark
  · exact ((readPart_spec hxlsx _ 0 0 _ (by decide +kernel)).2.2 (19, 19) (by decide +kernel)).mpr hmark

/-- The NULs of wide encodings are not scanned, so that the scan refuses more than the bytes as they are. -/
theorem wide_declaration_refused :
    ¬ ∀ chunks : List (List UInt8), (∀ c ∈ chunks, c ≠ []) →
      (xlsxScan.readPart (fun (_ : Unit) _ => .ok ()) 0 [] () chunks = .error .declaration ↔
        ∃ m ∈ xlsxScan.markers, m <:+: chunks.flatten.map xlsxScan.fold) := by
  intro h
  have hwide := h [[60, 0] ++ utf8 "!doctype".toList] (by simp)
  exact absurd (hwide.mp (by decide +kernel)) (by decide +kernel)

end DaonUser.Sources
