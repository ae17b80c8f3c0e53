import DaonUser.Lib.Folds
import DaonUser.RecoveryCapture.Store

/-!
# Objects of a capture, read and written

What a run of `_verify_data` that returns has read of each object, with whatever sink, has the digest of its
record (`readObject_restores`). Where the run without a sink returns, the one of `restore` returns too, if
the names of its files are new (`readObject_again`). What `capture` has written of an object is what its
source delivered (`writeObject_eq_ok`).
-/

namespace DaonUser.RecoveryCapture

open Lib
open Call (bind_eq_ok)
open Snapshot (Bytes encode dumps loads pack unpack number)

/-! ## Results -/

section Results

variable {α β : Type} {c : Prop} [Decidable c] {e : Exn} {o : Option α} {a b : α} {u : Unit}

theorem pure_eq_ok : (pure a : Result α) = .ok b ↔ a = b := by
  simp [pure, Except.pure]

theorem require_eq_ok : require c e = .ok u ↔ c := by
  unfold require
  split <;> simp_all

theorem orRaise_eq_ok : orRaise e o = .ok a ↔ o = some a := by
  cases o <;> simp [orRaise]

end Results

section Objects

variable {ν : Type} [PythonNumber ν] {p : Primitives} {store : FileCaptureStore} {scope : CaptureScope}
  {σ : Type} {sink : Sink σ} {item : BackupObjectInput}

theorem readChunk_eq_ok {s s' : Reading σ} {index : Nat} :
    readChunk (ν := ν) p store scope sink item s index = .ok s' ↔
      ∃ blob r chunk nonces out, readFrame chunkSize s.reader = .ok (blob, r) ∧
        decrypt ν p store scope "object" blob (detail ν item index item.chunks) r.nonces =
          .ok (chunk, nonces) ∧
        chunk.length = min chunkSize (item.byteSize - s.plain.length) ∧
        sink s.out (item, index, chunk) = .ok out ∧
        s' = ⟨{ r with nonces }, s.plain ++ chunk, s.cipher ++ blob, out⟩ := by
  simp only [readChunk, openBlob, bind_eq_ok, require_eq_ok, pure_eq_ok, Prod.exists, exists_const]
  constructor
  · rintro ⟨blob, r, hframe, chunk, r', ⟨raw, nonces, hopen, heq⟩, hlength, out, hsink, rfl⟩
    obtain ⟨rfl, rfl⟩ := Prod.mk.inj heq
    exact ⟨blob, r, raw, nonces, out, hframe, hopen, hlength, hsink, rfl⟩
  · rintro ⟨blob, r, chunk, nonces, out, hframe, hopen, hlength, hsink, rfl⟩
    exact ⟨blob, r, hframe, chunk, _, ⟨chunk, nonces, hopen, rfl⟩, hlength, out, hsink, rfl⟩

theorem readObject_eq_ok {s s' : Reader × σ} {row : Row ν} :
    readObject p store scope sink item s row = .ok s' ↔
      (Json.field? "chunks" row).bind Json.nat? = some item.chunks ∧
      ∃ final, (List.range item.chunks).foldlM (readChunk (ν := ν) p store scope sink item)
          ⟨s.1, [], [], s.2⟩ = .ok final ∧
        final.plain.length = item.byteSize ∧ p.sha256 final.plain = item.checksum ∧
        Is (Json.field? "ciphertext_digest" row) (.str (p.sha256 final.cipher)) ∧
        s' = (final.reader, final.out) := by
  simp only [readObject, bind_eq_ok, require_eq_ok, orRaise_eq_ok, pure_eq_ok, exists_const]
  constructor
  · rintro ⟨count, hcount, hchunks, final, hloop, hplain, digest, hdigest, hcipher, rfl⟩
    rw [hcount, hdigest]
    exact ⟨hchunks, final, hloop, hplain.1, hplain.2, hcipher, rfl⟩
  · rintro ⟨hchunks, final, hloop, hlength, hplain, hcipher, rfl⟩
    obtain ⟨count, hcount, hnat⟩ := Option.bind_eq_some_iff.1 hchunks
    obtain ⟨digest, hdigest, hsame⟩ := (Option.any_eq_true _ _).1 hcipher
    rw [hdigest] at hcipher
    exact ⟨count, hcount, hnat, final, hloop, ⟨hlength, hplain⟩, digest, hdigest, hcipher, rfl⟩

/-! ## The files of a destination -/

def Destination.add (p : Primitives) (d : Destination) (item : BackupObjectInput) (plain : Bytes) :
    Destination :=
  ⟨d.files ++ [(outputName p item, plain)], d.outputs ++ [(item.objectId, outputName p item)]⟩

/-- No file of the destination has the name of the object. -/
def Destination.New (p : Primitives) (d : Destination) (item : BackupObjectInput) : Prop :=
  outputName p item ∉ d.files.map (·.1)

variable {d out : Destination} {plain chunk : Bytes} {index : Nat}

theorem store_zero : store_ p d (item, 0, chunk) = .ok out ↔ d.New p item ∧ out = d.add p item chunk := by
  unfold store_ Destination.New
  by_cases h : outputName p item ∈ d.files.map (·.1)
  · simp [h]
  · simp [h, Destination.add, eq_comm]

theorem store_succ (h : d.New p item) :
    store_ p (d.add p item plain) (item, index + 1, chunk) = .ok (d.add p item (plain ++ chunk)) := by
  have hothers : d.files.map (fun file =>
      if file.1 = outputName p item then (outputName p item, file.2 ++ chunk) else file) = d.files := by
    refine (List.map_congr_left fun file hfile => ?_).trans (List.map_id _)
    exact if_neg fun heq => h (List.mem_map.2 ⟨file, hfile, heq⟩)
  simp [store_, Destination.add, hothers]

def Destination.after (p : Primitives) (d : Destination) (item : BackupObjectInput) (plain : Bytes) :
    Nat → Destination
  | 0 => d
  | _ + 1 => d.add p item plain

theorem store_after (h : index = 0 → plain = []) :
    store_ p (d.after p item plain index) (item, index, chunk) = .ok out → (0 < index → d.New p item) →
      d.New p item ∧ out = d.after p item (plain ++ chunk) (index + 1) := by
  intro hstore hnew
  cases index with
  | zero =>
    obtain ⟨hfirst, rfl⟩ := store_zero.1 hstore
    rw [h rfl]
    exact ⟨hfirst, rfl⟩
  | succ index =>
    have hfirst := hnew (Nat.succ_pos index)
    rw [Destination.after, store_succ hfirst] at hstore
    cases hstore
    exact ⟨hfirst, rfl⟩

theorem store_runs (h : index = 0 → plain = []) (hnew : d.New p item) :
    store_ p (d.after p item plain index) (item, index, chunk) =
      .ok (d.after p item (plain ++ chunk) (index + 1)) := by
  cases index with
  | zero =>
    rw [h rfl]
    exact store_zero.2 ⟨hnew, rfl⟩
  | succ index => exact store_succ hnew

theorem chunks_pos (item : BackupObjectInput) : 0 < item.chunks := le_max_left 1 _

theorem readObject_restores {s s' : Reader × Destination} {row : Row ν}
    (h : readObject p store scope (store_ p) item s row = .ok s') :
    ∃ plain, p.sha256 plain = item.checksum ∧ s.2.New p item ∧ s'.2 = s.2.add p item plain := by
  obtain ⟨-, final, hloop, -, hdigest, -, rfl⟩ := readObject_eq_ok.1 h
  have hkeeps := foldlM_range_keeps
    (Q := fun i (t : Reading Destination) => (i = 0 → t.plain = []) ∧ (0 < i → s.2.New p item) ∧
      t.out = s.2.after p item t.plain i) ?_ ⟨fun _ => rfl, fun h => absurd h (Nat.lt_irrefl 0), rfl⟩ hloop
  · obtain ⟨-, hnew, hout⟩ := hkeeps
    obtain ⟨n, hn⟩ := Nat.exists_eq_succ_of_ne_zero (chunks_pos item).ne'
    rw [hn] at hout
    exact ⟨final.plain, hdigest, hnew (chunks_pos item), hout⟩
  · rintro i t t' - ⟨hplain, hnew, hout⟩ hround
    obtain ⟨blob, r, chunk, nonces, out, -, -, -, hsink, rfl⟩ := readChunk_eq_ok.1 hround
    rw [hout] at hsink
    obtain ⟨hfirst, rfl⟩ := store_after hplain hsink hnew
    exact ⟨fun hi => absurd hi (Nat.succ_ne_zero i), fun _ => hfirst, rfl⟩

theorem readObject_again {r r' : Reader} {u u' : Unit} {row : Row ν} (hnew : d.New p item)
    (h : readObject p store scope ignore item (r, u) row = .ok (r', u')) :
    ∃ plain, readObject p store scope (store_ p) item (r, d) row = .ok (r', d.add p item plain) := by
  obtain ⟨hchunks, final, hloop, hlength, hdigest, hcipher, heq⟩ := readObject_eq_ok.1 h
  have hkeeps := foldlM_range_keeps
    (Q := fun i (t : Reading Unit) => (i = 0 → t.plain = []) ∧
      (List.range i).foldlM (readChunk (ν := ν) p store scope (store_ p) item) ⟨r, [], [], d⟩ =
        .ok ⟨t.reader, t.plain, t.cipher, d.after p item t.plain i⟩) ?_ ⟨fun _ => rfl, rfl⟩ hloop
  · obtain ⟨n, hn⟩ := Nat.exists_eq_succ_of_ne_zero (chunks_pos item).ne'
    have hout : d.after p item final.plain item.chunks = d.add p item final.plain := by
      rw [hn]
      rfl
    refine ⟨final.plain, readObject_eq_ok.2 ⟨hchunks, _, hkeeps.2, hlength, hdigest, hcipher, ?_⟩⟩
    rw [(Prod.mk.inj heq).1, hout]
  · rintro i t t' - ⟨hplain, hrun⟩ hround
    obtain ⟨blob, r₁, chunk, nonces, out, hframe, hopen, hlen, -, rfl⟩ := readChunk_eq_ok.1 hround
    refine ⟨fun hi => absurd hi (Nat.succ_ne_zero i), foldlM_range_succ.2 ⟨_, hrun, ?_⟩⟩
    exact readChunk_eq_ok.2 ⟨blob, r₁, chunk, nonces, _, hframe, hopen, hlen, store_runs hplain hnew, rfl⟩

end Objects

/-! ## What is written -/

def content (answers : List Bytes) : Bytes := (answers.takeWhile fun piece => piece ≠ []).flatten

theorem content_cons {piece : Bytes} (h : piece ≠ []) (answers : List Bytes) :
    content (piece :: answers) = piece ++ content answers := by
  rw [content, List.takeWhile_cons_of_pos (by simpa using h), List.flatten_cons]
  rfl

theorem content_of_end {answers : List Bytes} (h : answers.head?.getD [] = []) : content answers = [] := by
  cases answers with
  | nil => rfl
  | cons piece answers =>
    rw [content, List.takeWhile_cons_of_neg (by simpa using h)]
    rfl

theorem fill_eq_ok {expected : Nat} {buffer chunk : Bytes} {answers rest : List Bytes}
    (h : fill expected buffer answers = .ok (chunk, rest)) (hle : buffer.length ≤ expected) :
    chunk.length = expected ∧ buffer ++ content answers = chunk ++ content rest := by
  induction answers generalizing buffer with
  | nil =>
    rw [fill] at h
    split at h
    · cases h
    · next hfull =>
      cases h
      exact ⟨by omega, rfl⟩
  | cons piece answers ih =>
    rw [fill] at h
    split at h
    · split at h
      · cases h
      · next hmore hpiece =>
        obtain ⟨hpiece, hfits⟩ := not_or.1 hpiece
        have hlength : (buffer ++ piece).length ≤ expected := by
          rw [List.length_append]
          omega
        obtain ⟨hchunk, hcontent⟩ := ih h hlength
        refine ⟨hchunk, ?_⟩
        rw [content_cons hpiece, ← List.append_assoc, hcontent]
    · next hfull =>
      cases h
      exact ⟨by omega, rfl⟩

section Writing

variable {ν : Type} [PythonNumber ν] {p : Primitives} {store : FileCaptureStore} {c : CaptureCall ν p}
  {item : BackupObjectInput}

def frameBound : Nat := 4 + 2 ^ 32

theorem frame_eq_ok {data blob data' : Bytes} (h : frame data blob = .ok data') :
    ∃ size, pack blob.length = some size ∧ data' = data ++ size ++ blob ∧
      data'.length ≤ data.length + frameBound := by
  simp only [frame, bind_eq_ok, orRaise_eq_ok, pure_eq_ok] at h
  obtain ⟨size, hsize, rfl⟩ := h
  refine ⟨size, hsize, rfl, ?_⟩
  unfold pack at hsize
  split at hsize
  · next hlt =>
    cases hsize
    simp only [List.length_append, List.length_cons, List.length_nil, frameBound]
    omega
  · cases hsize

theorem writeChunk_eq_ok {s s' : Writing} {index : Nat} (h : writeChunk p store c item s index = .ok s') :
    ∃ chunk blob, fill (min chunkSize (item.byteSize - s.plain.length)) [] s.answers =
        .ok (chunk, s'.answers) ∧
      encrypt ν p store c.scope c.draws "object" chunk (detail ν item index item.chunks) s.nonces =
        .ok (blob, s'.nonces) ∧
      frame s.data blob = .ok s'.data ∧ s'.plain = s.plain ++ chunk ∧ s'.cipher = s.cipher ++ blob := by
  simp only [writeChunk, bind_eq_ok, pure_eq_ok, Prod.exists] at h
  obtain ⟨chunk, answers, hfill, blob, nonces, hblob, data, hframe, rfl⟩ := h
  exact ⟨chunk, blob, hfill, hblob, hframe, rfl, rfl⟩

theorem writeObject_eq_ok {s s' : Written × List (Json ν)} (h : writeObject p store c item s = .ok s') :
    p.sha256 (content (c.source item)) = item.checksum ∧
      (content (c.source item)).length = item.byteSize ∧
      s'.1.data.length ≤ s.1.data.length + item.chunks * frameBound ∧
      ∃ cipher, s'.2 = s.2 ++ [objectRecord p item cipher] := by
  simp only [writeObject, bind_eq_ok, require_eq_ok, pure_eq_ok, exists_const] at h
  obtain ⟨final, hloop, hend, hplain, rfl⟩ := h
  have hkeeps := foldlM_range_keeps
    (Q := fun i (t : Writing) => t.plain ++ content t.answers = content (c.source item) ∧
      t.data.length ≤ s.1.data.length + i * frameBound) ?_ ⟨rfl, by simp⟩ hloop
  · obtain ⟨hcontent, hlength⟩ := hkeeps
    rw [content_of_end hend, List.append_nil] at hcontent
    rw [← hcontent]
    exact ⟨hplain.2, hplain.1, hlength, final.cipher, rfl⟩
  · rintro i t t' - ⟨hcontent, hlength⟩ hround
    obtain ⟨chunk, blob, hfill, -, hframe, hplain', -⟩ := writeChunk_eq_ok hround
    have hchunk := (fill_eq_ok hfill (Nat.zero_le _)).2
    obtain ⟨size, -, -, hdata⟩ := frame_eq_ok hframe
    rw [List.nil_append] at hchunk
    refine ⟨?_, ?_⟩
    · rw [hplain', List.append_assoc, ← hchunk, hcontent]
    · rw [Nat.succ_mul]
      omega

end Writing

end DaonUser.RecoveryCapture
