import DaonUser.Audit.Head
import DaonUser.Audit.Postgres

/-!
# Audit: what a row gives back

A float comes back as it was written when it is small and not the negative zero (`loadNumber_float`);
a projection of such floats comes back up to the order of its members (`projection_toColumn`), and so
an event has the payload that was hashed (`eventFromRow_toRow`).
-/

namespace DaonUser.Audit.Postgres

open Lib Lib.Call

variable {prim : Primitives} {depth : Nat}

/-! ## Numbers -/

/-- The float is printed with a point by `numeric`, and keeps its sign. -/
def Kept (d : Decimal) : Prop := d.Small ∧ (d.negative = true → d.mantissa ≠ 0)

instance (d : Decimal) : Decidable (Kept d) := inferInstanceAs (Decidable (_ ∧ _))

theorem loadNumber_int (n : Int) : loadNumber (Number.int n).numeral.plain = .int n := by
  have hsignificand : (Number.int n).numeral.significand = n.natAbs := by
    rw [Numeral.significand, Number.numeral, List.append_nil, Nat.ofDigitChars_ten_toDigits]
  have hscale : (Number.int n).numeral.scale = 0 := rfl
  have hback : (Number.int n).numeral.plain.significand = n.natAbs := by
    rw [Numeral.plain, hscale, hsignificand]
    simp [Numeral.significand, Nat.ofDigitChars_ten_toDigits]
  have hsign : (Number.int n).numeral.plain.negative = (decide (n < 0) && decide (n.natAbs ≠ 0)) := by
    rw [Numeral.plain, hscale, hsignificand]
    rfl
  have hwhole : (Number.int n).numeral.plain.fraction = [] ∧
      (Number.int n).numeral.plain.exponent = none := by
    rw [Numeral.plain, hscale]
    exact ⟨rfl, rfl⟩
  rw [loadNumber, if_pos hwhole, hback, hsign]
  congr 1
  by_cases hn : n < 0
  · have hne : n.natAbs ≠ 0 := by omega
    simp only [hn, hne, decide_true, ne_eq, not_false_eq_true, Bool.and_self, if_true]
    omega
  · simp only [hn, decide_false, Bool.false_and, Bool.false_eq_true, if_false]
    omega

theorem loadNumber_float {d : Decimal} (h : Kept d) :
    loadNumber (Number.float d).numeral.plain = .float (.finite d) := by
  have hfraction := Decimal.plain_shortest_fraction d h.1
  have hsign : d.shortest.negative = true → d.shortest.significand ≠ 0 := by
    intro hnegative hzero
    have hd := d.toDecimal_shortest
    rw [Numeral.toDecimal, hzero, hnegative] at hd
    have hmantissa : d.mantissa = 0 := by
      rw [← hd]
      rfl
    have hneg : d.negative = true := by
      rw [← hd]
      rfl
    exact h.2 hneg hmantissa
  rw [loadNumber, if_neg fun hwhole => hfraction hwhole.1]
  change Value.float (.finite d.shortest.plain.toDecimal) = _
  rw [Numeral.toDecimal_plain hsign, d.toDecimal_shortest]

/-! ## Projections -/

mutual

def KeepsFloats : Value → Prop
  | .float (.finite d) => Kept d
  | .mapping _ items => KeepsFloatsItems items
  | .list items => KeepsFloatsList items
  | _ => True

def KeepsFloatsItems : List (Option String × Value) → Prop
  | [] => True
  | (_, item) :: items => KeepsFloats item ∧ KeepsFloatsItems items

def KeepsFloatsList : List Value → Prop
  | [] => True
  | item :: items => KeepsFloats item ∧ KeepsFloatsList items

end

mutual

/-- A JSON value that passes the checks of a projection, with floats that are kept. -/
def Admissible (prim : Primitives) (depth : Nat) : Json Number → Prop
  | .null => depth ≤ maxJsonDepth
  | .bool _ => depth ≤ maxJsonDepth
  | .num (.int n) => depth ≤ maxJsonDepth ∧ (Nat.toDigits 10 n.natAbs).length ≤ maxStrDigits
  | .num (.float d) => depth ≤ maxJsonDepth ∧ Kept d
  | .str s => depth ≤ maxJsonDepth ∧ validateStringValue prim s = .ok ()
  | .arr items => depth ≤ maxJsonDepth ∧ AdmissibleItems prim (depth + 1) items
  | .obj members =>
    depth ≤ maxJsonDepth ∧ (members.map Prod.fst).Nodup ∧ AdmissibleMembers prim (depth + 1) members

def AdmissibleItems (prim : Primitives) (depth : Nat) : List (Json Number) → Prop
  | [] => True
  | item :: items => Admissible prim depth item ∧ AdmissibleItems prim depth items

def AdmissibleMembers (prim : Primitives) (depth : Nat) : List (String × Json Number) → Prop
  | [] => True
  | (key, value) :: members =>
    checkKey prim (some key) = .ok () ∧ Admissible prim depth value ∧
      AdmissibleMembers prim depth members

end

theorem admissibleMembers_iff {members : List (String × Json Number)} :
    AdmissibleMembers prim depth members ↔ ∀ member ∈ members,
      checkKey prim (some member.1) = .ok () ∧ Admissible prim depth member.2 := by
  induction members with
  | nil => simp [AdmissibleMembers]
  | cons member members ih =>
    rw [AdmissibleMembers, ih, List.forall_mem_cons, and_assoc]

theorem toMembers_spec {items : List (Option String × Value)} {members : List (String × Json Number)}
    (h : toMembers items = .ok members) :
    List.Forall₂ (fun item member => item.1 = some member.1 ∧ toJson item.2 = .ok member.2) items
      members := by
  induction items generalizing members with
  | nil =>
    cases h
    exact .nil
  | cons item items ih =>
    obtain ⟨key, value⟩ := item
    cases key with
    | none => cases h
    | some key =>
      obtain ⟨json, hjson, h⟩ := bind_eq_ok.1 h
      obtain ⟨rest, hrest, h⟩ := bind_eq_ok.1 h
      cases h
      exact .cons ⟨rfl, hjson⟩ (ih hrest)

def Dumped (entry : Option String × Value) (member : String × Json Number) : Prop :=
  entry.1 = some member.1 ∧ toJson (thawJson entry.2) = .ok member.2

theorem keys_of_dumped {entries : List (Option String × Value)}
    {members : List (String × Json Number)} (h : List.Forall₂ Dumped entries members) :
    entries.map Prod.fst = (members.map Prod.fst).map some := by
  induction h with
  | nil => rfl
  | cons hentry _ ih => rw [List.map_cons, List.map_cons, List.map_cons, hentry.1, ih]

def DumpsAdmissible (prim : Primitives) (depth : Nat) (value : Value) : Prop :=
  ∀ json, toJson (thawJson value) = .ok json → Admissible prim depth json

theorem admissibleMembers_of_dumped {entries : List (Option String × Value)}
    {members : List (String × Json Number)} (h : List.Forall₂ Dumped entries members)
    (hkey : ∀ entry ∈ entries, checkKey prim entry.1 = .ok ())
    (hvalue : ∀ entry ∈ entries, DumpsAdmissible prim depth entry.2) :
    AdmissibleMembers prim depth members := by
  induction h with
  | nil => trivial
  | cons hentry _ ih =>
    rw [List.forall_mem_cons] at hkey hvalue
    rw [hentry.1] at hkey
    exact ⟨hkey.1, hvalue.1 _ hentry.2, ih hkey.2 hvalue.2⟩

mutual

theorem freezeJson_admissible {depth : Nat} (value : Value) {frozen : Value}
    (h : freezeJson prim depth value = .ok frozen) (hfloats : KeepsFloats value) :
    DumpsAdmissible prim depth frozen := by
  intro json hjson
  unfold freezeJson at h
  split at h
  · cases h
  · next hdepth =>
    have hle : depth ≤ maxJsonDepth := not_lt.1 hdepth
    cases value with
    | none =>
      cases h
      cases hjson
      exact hle
    | bool b =>
      cases h
      cases hjson
      exact hle
    | int n =>
      cases h
      simp only [thawJson, toJson] at hjson
      split at hjson
      · next hdigits =>
        cases hjson
        exact ⟨hle, hdigits⟩
      · cases hjson
    | str s =>
      obtain ⟨_, hstring, hfrozen⟩ := bind_eq_ok.1 h
      cases hfrozen
      cases hjson
      exact ⟨hle, hstring⟩
    | float f =>
      cases f with
      | finite d =>
        cases h
        cases hjson
        exact ⟨hle, hfloats⟩
      | infinite negative => cases h
      | nan => cases h
    | mapping isDict items =>
      obtain ⟨entries, hentries, hfrozen⟩ := bind_eq_ok.1 h
      cases hfrozen
      have hmade := freezeItems_admissible items hentries hfloats entries_nil
      obtain ⟨members, hmembers, hobj⟩ := bind_eq_ok.1 hjson
      cases hobj
      rw [thawItems_eq (by simpa using hmade.nodup), List.nil_append] at hmembers
      have hdumped := toMembers_spec hmembers
      rw [List.forall₂_map_left_iff] at hdumped
      have hnodup : (members.map Prod.fst).Nodup :=
        List.Nodup.of_map some (keys_of_dumped hdumped ▸ hmade.nodup)
      exact ⟨hle, hnodup, admissibleMembers_of_dumped hdumped hmade.key hmade.value⟩
    | list items =>
      obtain ⟨values, hvalues, hfrozen⟩ := bind_eq_ok.1 h
      cases hfrozen
      obtain ⟨jsons, hjsons, harr⟩ := bind_eq_ok.1 hjson
      cases harr
      exact ⟨hle, freezeList_admissible items hvalues hfloats hjsons⟩
    | tuple items => cases h
    | other => cases h

theorem freezeItems_admissible {depth : Nat} (items : List (Option String × Value))
    {before frozen : List (Option String × Value)}
    (h : freezeItems prim depth items before = .ok frozen) (hfloats : KeepsFloatsItems items)
    (hbefore : Entries prim (DumpsAdmissible prim (depth + 1)) before) :
    Entries prim (DumpsAdmissible prim (depth + 1)) frozen := by
  match items, h, hfloats with
  | [], h, _ =>
    cases h
    exact hbefore
  | (key, item) :: items, h, ⟨hitem, hitems⟩ =>
    obtain ⟨_, hkey, h⟩ := bind_eq_ok.1 h
    obtain ⟨value, hvalue, h⟩ := bind_eq_ok.1 h
    exact freezeItems_admissible items h hitems
      (hbefore.put hkey (freezeJson_admissible item hvalue hitem))

theorem freezeList_admissible {depth : Nat} (items : List Value) {frozen : List Value}
    (h : freezeList prim depth items = .ok frozen) (hfloats : KeepsFloatsList items)
    {jsons : List (Json Number)} (hjsons : toItems (thawList frozen) = .ok jsons) :
    AdmissibleItems prim (depth + 1) jsons := by
  match items, h, hfloats with
  | [], h, _ =>
    cases h
    cases hjsons
    trivial
  | item :: items, h, ⟨hitem, hitems⟩ =>
    obtain ⟨value, hvalue, h⟩ := bind_eq_ok.1 h
    obtain ⟨values, hvalues, h⟩ := bind_eq_ok.1 h
    cases h
    obtain ⟨json, hjson, hjsons⟩ := bind_eq_ok.1 hjsons
    obtain ⟨rest, hrest, hjsons⟩ := bind_eq_ok.1 hjsons
    cases hjsons
    exact ⟨freezeJson_admissible item hvalue hitem json hjson,
      freezeList_admissible items hvalues hitems hrest⟩

end

mutual

theorem Admissible.distinctKeys {depth : Nat} :
    ∀ {json : Json Number}, Admissible prim depth json → Jsonb.DistinctKeys json
  | .null, _ => trivial
  | .bool _, _ => trivial
  | .num _, _ => trivial
  | .str _, _ => trivial
  | .arr _, ⟨_, h⟩ => admissibleItems_distinct h
  | .obj _, ⟨_, nodup, h⟩ => ⟨nodup, admissibleMembers_distinct h⟩

theorem admissibleItems_distinct {depth : Nat} :
    ∀ {items : List (Json Number)}, AdmissibleItems prim depth items → Jsonb.DistinctItems items
  | [], _ => trivial
  | _ :: _, ⟨h, hitems⟩ => ⟨h.distinctKeys, admissibleItems_distinct hitems⟩

theorem admissibleMembers_distinct {depth : Nat} : ∀ {members : List (String × Json Number)},
    AdmissibleMembers prim depth members → Jsonb.DistinctMembers members
  | [], _ => trivial
  | (_, _) :: _, ⟨_, h, hmembers⟩ => ⟨h.distinctKeys, admissibleMembers_distinct hmembers⟩

end

mutual

theorem Admissible.reorder {depth : Nat} :
    ∀ {json : Json Number}, Admissible prim depth json → Admissible prim depth (Jsonb.reorder json)
  | .null, h => h
  | .bool _, h => h
  | .num _, h => h
  | .str _, h => h
  | .arr _, ⟨hdepth, h⟩ => ⟨hdepth, admissibleItems_reorder h⟩
  | .obj members, ⟨hdepth, nodup, h⟩ => by
    have hperm := Jsonb.orderMembers_perm (Jsonb.reorderMembers members)
    refine ⟨hdepth, ?_, admissibleMembers_iff.2 fun member hmember => ?_⟩
    · refine (hperm.map Prod.fst).nodup_iff.2 ?_
      rw [Jsonb.reorderMembers_eq, List.map_map]
      exact nodup
    · exact admissibleMembers_iff.1 (admissibleMembers_reorder h) member (hperm.mem_iff.1 hmember)

theorem admissibleItems_reorder {depth : Nat} : ∀ {items : List (Json Number)},
    AdmissibleItems prim depth items → AdmissibleItems prim depth (Jsonb.reorderItems items)
  | [], _ => trivial
  | _ :: _, ⟨h, hitems⟩ => ⟨h.reorder, admissibleItems_reorder hitems⟩

theorem admissibleMembers_reorder {depth : Nat} : ∀ {members : List (String × Json Number)},
    AdmissibleMembers prim depth members →
      AdmissibleMembers prim depth (Jsonb.reorderMembers members)
  | [], _ => trivial
  | (_, _) :: _, ⟨hkey, h, hmembers⟩ => ⟨hkey, h.reorder, admissibleMembers_reorder hmembers⟩

end

/-! ## Reading a column -/

/-- The numbers as a `jsonb` column prints them. -/
abbrev printed (json : Json Number) : Json Numeral :=
  Jsonb.mapNumbers (fun n => n.numeral.plain) json

theorem loadMembers_eq {members : List (String × Json Numeral)}
    {loaded : List (Option String × Value)}
    (h : (loaded.map Prod.fst ++ (members.map Prod.fst).map some).Nodup) :
    loadMembers members loaded = loaded ++ members.map fun m => (some m.1, loads m.2) := by
  induction members generalizing loaded with
  | nil => simp [loadMembers]
  | cons member members ih =>
    obtain ⟨key, value⟩ := member
    have hnew : some key ∉ loaded.map Prod.fst := by
      intro hmem
      rw [List.nodup_append] at h
      exact h.2.2 (some key) hmem (some key) List.mem_cons_self rfl
    rw [loadMembers, Dict.put_of_not_mem hnew, ih]
    · simp
    · simpa using h

/-- What the value of a column becomes: it is frozen, and dumped to the value again. -/
def Restored (prim : Primitives) (depth : Nat) (json : Json Number) (frozen : Value) : Prop :=
  freezeJson prim depth (loads (printed json)) = .ok frozen ∧ toJson (thawJson frozen) = .ok json

def RestoredMember (prim : Primitives) (depth : Nat) (member : String × Json Number)
    (entry : Option String × Value) : Prop :=
  entry.1 = some member.1 ∧ checkKey prim (some member.1) = .ok () ∧
    Restored prim depth member.2 entry.2

theorem mapNumbersMembers_eq (members : List (String × Json Number)) :
    Jsonb.mapNumbersMembers (fun n => n.numeral.plain) members =
      members.map fun member => (member.1, printed member.2) := by
  induction members with
  | nil => rfl
  | cons member members ih => rw [Jsonb.mapNumbersMembers, ih, List.map_cons]

theorem freezeItems_restored {members : List (String × Json Number)}
    {entries frozen : List (Option String × Value)}
    (h : List.Forall₂ (RestoredMember prim (depth + 1)) members entries)
    (nodup : ((frozen ++ entries).map Prod.fst).Nodup) :
    freezeItems prim depth (members.map fun m => (some m.1, loads (printed m.2))) frozen =
      .ok (frozen ++ entries) := by
  induction h generalizing frozen with
  | nil => simp [freezeItems]
  | @cons member entry members entries hentry _ ih =>
    obtain ⟨key, value⟩ := entry
    obtain ⟨rfl, hkey, hfrozen, -⟩ := hentry
    have hnew : some member.1 ∉ frozen.map Prod.fst := by
      intro hmem
      rw [List.map_append, List.map_cons, List.nodup_append] at nodup
      exact nodup.2.2 _ hmem _ List.mem_cons_self rfl
    rw [List.append_cons] at nodup ⊢
    simp only [List.map_cons, freezeItems, hkey, hfrozen, bind, Except.bind]
    rw [Dict.put_of_not_mem hnew]
    exact ih nodup

theorem toMembers_restored {members : List (String × Json Number)}
    {entries : List (Option String × Value)}
    (h : List.Forall₂ (RestoredMember prim depth) members entries) :
    toMembers (entries.map fun e => (e.1, thawJson e.2)) = .ok members := by
  induction h with
  | nil => rfl
  | @cons member entry members entries hentry _ ih =>
    obtain ⟨key, value⟩ := entry
    obtain ⟨rfl, -, -, hdumped⟩ := hentry
    simp only [List.map_cons, toMembers, hdumped, ih]
    rfl

theorem keys_of_restored {members : List (String × Json Number)}
    {entries : List (Option String × Value)}
    (h : List.Forall₂ (RestoredMember prim depth) members entries) :
    entries.map Prod.fst = (members.map Prod.fst).map some := by
  induction h with
  | nil => rfl
  | cons hentry _ ih => rw [List.map_cons, List.map_cons, List.map_cons, hentry.1, ih]

mutual

theorem Admissible.restored {depth : Nat} :
    ∀ {json : Json Number}, Admissible prim depth json → ∃ frozen, Restored prim depth json frozen
  | .null, hdepth => ⟨.none, if_neg (not_lt.2 hdepth), rfl⟩
  | .bool b, hdepth => ⟨.bool b, if_neg (not_lt.2 hdepth), rfl⟩
  | .num (.int n), ⟨hdepth, hdigits⟩ => by
    refine ⟨.int n, ?_, if_pos hdigits⟩
    simp only [printed, Jsonb.mapNumbers, loads, loadNumber_int]
    rw [freezeJson, if_neg (not_lt.2 hdepth)]
  | .num (.float d), ⟨hdepth, hkept⟩ => by
    refine ⟨.float (.finite d), ?_, rfl⟩
    simp only [printed, Jsonb.mapNumbers, loads, loadNumber_float hkept]
    rw [freezeJson, if_neg (not_lt.2 hdepth)]
  | .str s, ⟨hdepth, hstring⟩ => by
    refine ⟨.str s, ?_, rfl⟩
    simp only [printed, Jsonb.mapNumbers, loads]
    rw [freezeJson, if_neg (not_lt.2 hdepth)]
    exact bind_eq_ok.2 ⟨(), hstring, rfl⟩
  | .arr items, ⟨hdepth, h⟩ => by
    obtain ⟨values, hfrozen, hdumped⟩ := admissibleItems_restored h
    refine ⟨.tuple values, ?_, bind_eq_ok.2 ⟨items, hdumped, rfl⟩⟩
    simp only [printed, Jsonb.mapNumbers, loads]
    rw [freezeJson, if_neg (not_lt.2 hdepth)]
    exact bind_eq_ok.2 ⟨values, hfrozen, rfl⟩
  | .obj members, ⟨hdepth, nodup, h⟩ => by
    obtain ⟨entries, hentries⟩ := admissibleMembers_restored h
    have hkeys := keys_of_restored hentries
    have hnodup : (entries.map Prod.fst).Nodup := by
      rw [hkeys]
      exact nodup.map (Option.some_injective String)
    have hloaded : loadMembers (members.map fun m => (m.1, printed m.2)) [] =
        members.map fun m => (some m.1, loads (printed m.2)) := by
      rw [loadMembers_eq, List.nil_append, List.map_map]
      · rfl
      · rw [List.map_nil, List.nil_append, List.map_map, List.map_map]
        rw [hkeys, List.map_map] at hnodup
        exact hnodup
    have hfrozen : freezeItems prim depth (members.map fun m => (some m.1, loads (printed m.2))) [] =
        .ok entries := freezeItems_restored hentries hnodup
    refine ⟨.mapping false entries, ?_, ?_⟩
    · simp only [printed, Jsonb.mapNumbers, loads, mapNumbersMembers_eq, hloaded]
      rw [freezeJson, if_neg (not_lt.2 hdepth)]
      exact bind_eq_ok.2 ⟨entries, hfrozen, rfl⟩
    · rw [thawJson, thawItems_eq (by simpa using hnodup), List.nil_append]
      exact bind_eq_ok.2 ⟨members, toMembers_restored hentries, rfl⟩

theorem admissibleItems_restored {depth : Nat} : ∀ {items : List (Json Number)},
    AdmissibleItems prim (depth + 1) items → ∃ values,
      freezeList prim depth (loadItems (Jsonb.mapNumbersItems (fun n => n.numeral.plain) items)) =
          .ok values ∧
        toItems (thawList values) = .ok items
  | [], _ => ⟨[], rfl, rfl⟩
  | item :: items, ⟨h, hitems⟩ => by
    obtain ⟨value, hvalue, hjson⟩ := h.restored
    obtain ⟨values, hvalues, hjsons⟩ := admissibleItems_restored hitems
    refine ⟨value :: values, ?_, ?_⟩
    · exact bind_eq_ok.2 ⟨value, hvalue, bind_eq_ok.2 ⟨values, hvalues, rfl⟩⟩
    · exact bind_eq_ok.2 ⟨item, hjson, bind_eq_ok.2 ⟨items, hjsons, rfl⟩⟩

theorem admissibleMembers_restored {depth : Nat} : ∀ {members : List (String × Json Number)},
    AdmissibleMembers prim depth members →
      ∃ entries, List.Forall₂ (RestoredMember prim depth) members entries
  | [], _ => ⟨[], .nil⟩
  | (key, _) :: _, ⟨hkey, h, hmembers⟩ => by
    obtain ⟨value, hvalue⟩ := h.restored
    obtain ⟨entries, hentries⟩ := admissibleMembers_restored hmembers
    exact ⟨(some key, value) :: entries, .cons ⟨rfl, hkey, hvalue⟩ hentries⟩

end

/-! ## Events -/

/-- The values are dumped to one value, up to the order of members. -/
def SameJson (value value' : Value) : Prop :=
  ∃ json json', toJson (thawJson value) = .ok json ∧ toJson (thawJson value') = .ok json' ∧
    json.sorted = json'.sorted

theorem validateProjection_toJsonb {value frozen : Value} {fieldName fieldName' : String}
    (h : validateProjection prim value fieldName = .ok frozen) (hfloats : KeepsFloats value)
    (hvalue : value ≠ .none) {column : Json Numeral} (hcolumn : toJsonb frozen = .ok column) :
    ∃ frozen', validateProjection prim (loads column) fieldName' = .ok frozen' ∧
      SameJson frozen frozen' ∧ frozen' ≠ .none := by
  cases value with
  | mapping isDict items =>
    obtain ⟨made, hmade, h⟩ := bind_eq_ok.1 h
    obtain ⟨json, hjson, h⟩ := bind_eq_ok.1 h
    split at h
    · cases h
    · next hsize =>
      cases h
      obtain ⟨json', hjson', hstored⟩ := bind_eq_ok.1 hcolumn
      obtain rfl : json' = json := Except.ok.inj (hjson'.symm.trans hjson)
      cases hstored
      have hadmissible := freezeJson_admissible _ hmade hfloats json' hjson
      have hsorted : (Jsonb.reorder json').sorted = json'.sorted :=
        Jsonb.sorted_reorder hadmissible.distinctKeys
      have hcanonical : (Jsonb.reorder json').canonical = json'.canonical :=
        Json.canonical_inj.2 hsorted
      obtain ⟨frozen', hfrozen', hdumped⟩ := hadmissible.reorder.restored
      -- a mapping is dumped to an object, so the text is loaded as a mapping again
      obtain ⟨entries, -, hentries⟩ := bind_eq_ok.1 hmade
      cases hentries
      obtain ⟨members, -, hobj⟩ := bind_eq_ok.1 hjson
      cases hobj
      refine ⟨frozen', bind_eq_ok.2 ⟨frozen', hfrozen', bind_eq_ok.2 ⟨_, hdumped, ?_⟩⟩,
        ⟨_, _, hjson, hdumped, hsorted.symm⟩, ?_⟩
      · rw [hcanonical]
        exact if_neg hsize
      · rintro rfl
        cases hdumped
  | none => exact absurd rfl hvalue
  | bool b => cases h
  | int n => cases h
  | float f => cases h
  | str s => cases h
  | list items => cases h
  | tuple items => cases h
  | other => cases h

theorem validateProjection_cases {value frozen : Value} {fieldName : String}
    (h : validateProjection prim value fieldName = .ok frozen) :
    (value = .none ∧ frozen = .none) ∨
      (value ≠ .none ∧ ∃ isDict items, frozen = .mapping isDict items) := by
  cases value with
  | none =>
    cases h
    exact Or.inl ⟨rfl, rfl⟩
  | mapping isDict items =>
    obtain ⟨made, hmade, h⟩ := bind_eq_ok.1 h
    obtain ⟨entries, -, hentries⟩ := bind_eq_ok.1 hmade
    cases hentries
    obtain ⟨json, -, h⟩ := bind_eq_ok.1 h
    split at h
    · cases h
    · cases h
      exact Or.inr ⟨by simp, false, entries, rfl⟩
  | bool b => cases h
  | int n => cases h
  | float f => cases h
  | str s => cases h
  | list items => cases h
  | tuple items => cases h
  | other => cases h

theorem projection_toColumn {value frozen : Value} {fieldName : String}
    (h : validateProjection prim value fieldName = .ok frozen) (hfloats : KeepsFloats value)
    {column : Option (Json Numeral)} (hcolumn : toColumn frozen = .ok column) :
    ∃ frozen', projection prim column fieldName = .ok frozen' ∧ SameJson frozen frozen' := by
  rcases validateProjection_cases h with ⟨rfl, rfl⟩ | ⟨hvalue, isDict, items, rfl⟩
  · cases hcolumn
    exact ⟨.none, rfl, .null, .null, rfl, rfl, rfl⟩
  · obtain ⟨stored, hstored, hcolumn⟩ := bind_eq_ok.1 hcolumn
    cases hcolumn
    obtain ⟨frozen', hfrozen', hsame, -⟩ := validateProjection_toJsonb h hfloats hvalue hstored
    exact ⟨frozen', hfrozen', hsame⟩

theorem projection_thawJson {column : Option (Json Numeral)} {frozen : Value} {fieldName : String}
    (h : projection prim column fieldName = .ok frozen) :
    validateProjection prim (thawJson frozen) fieldName = .ok frozen := by
  cases column with
  | none =>
    cases h
    rfl
  | some value => exact validateProjection_thawJson h

theorem validateMetadata_iff {value frozen : Value} :
    validateMetadata prim value = .ok frozen ↔
      validateProjection prim value "METADATA" = .ok frozen ∧ frozen ≠ .none := by
  constructor
  · intro h
    obtain ⟨metadata, hmetadata, h⟩ := bind_eq_ok.1 h
    cases metadata with
    | none => cases h
    | _ =>
      cases h
      exact ⟨hmetadata, by simp⟩
  · rintro ⟨hprojection, hne⟩
    refine bind_eq_ok.2 ⟨frozen, hprojection, ?_⟩
    cases frozen with
    | none => exact absurd rfl hne
    | _ => rfl

theorem validateMetadata_toJsonb {value frozen : Value}
    (h : validateMetadata prim value = .ok frozen) (hfloats : KeepsFloats value)
    {column : Json Numeral} (hcolumn : toJsonb frozen = .ok column) :
    ∃ frozen', validateMetadata prim (loads column) = .ok frozen' ∧ SameJson frozen frozen' := by
  obtain ⟨hprojection, hne⟩ := validateMetadata_iff.1 h
  have hvalue : value ≠ .none := by
    rintro rfl
    cases hprojection
    exact hne rfl
  obtain ⟨frozen', hfrozen', hsame, hne'⟩ := validateProjection_toJsonb hprojection hfloats hvalue hcolumn
  exact ⟨frozen', validateMetadata_iff.2 ⟨hfrozen', hne'⟩, hsame⟩

theorem toActorType_value (actorType : ActorType) : toActorType actorType.value = .ok actorType := by
  cases actorType <;> rfl

theorem toOutcome_value (outcome : AuditOutcome) : toOutcome outcome.value = .ok outcome := by
  cases outcome <;> rfl

/-- The floats of the projections of a draft are kept. -/
structure KeepsDraft (draft : AuditEventDraft) : Prop where
  before : KeepsFloats draft.before
  after : KeepsFloats draft.after
  metadata : KeepsFloats draft.metadata

theorem samePayload_of_sameJson {event : AuditEvent} {before after metadata : Value}
    (hbefore : SameJson event.before before) (hafter : SameJson event.after after)
    (hmetadata : SameJson event.metadata metadata) :
    SamePayload event { event with before := before, after := after, metadata := metadata } := by
  obtain ⟨before, before', hb, hb', hbsorted⟩ := hbefore
  obtain ⟨after, after', ha, ha', hasorted⟩ := hafter
  obtain ⟨metadata, metadata', hm, hm', hmsorted⟩ := hmetadata
  refine ⟨_, _, bind_eq_ok.2 ⟨_, hb, bind_eq_ok.2 ⟨_, ha, bind_eq_ok.2 ⟨_, hm, rfl⟩⟩⟩,
    bind_eq_ok.2 ⟨_, hb', bind_eq_ok.2 ⟨_, ha', bind_eq_ok.2 ⟨_, hm', rfl⟩⟩⟩, ?_⟩
  simp only [Json.sorted, Json.sortedMembers, hbsorted, hasorted, hmsorted]

theorem calculateEventHash_of_samePayload {event event' : AuditEvent}
    (h : SamePayload event event') :
    calculateEventHash prim event' = calculateEventHash prim event := by
  obtain ⟨json, json', hjson, hjson', hsorted⟩ := h
  rw [calculateEventHash, calculateEventHash, hjson, hjson']
  change Except.ok (prim.sha256 json'.canonical) = Except.ok (prim.sha256 json.canonical)
  rw [Json.canonical_inj.2 hsorted]

theorem eventFromRow_toRow {draft : AuditEventDraft} {event : AuditEvent} {row : Row}
    (hfields : validateDraft prim draft = .ok event.toAuditFields) (hfloats : KeepsDraft draft)
    (hsequence : 1 ≤ event.sequence) (hprevious : isDigest event.previousEventHash = true)
    (hhash : calculateEventHash prim event = .ok event.eventHash) (hrow : toRow event = .ok row) :
    ∃ before after metadata,
      let event' := { event with before := before, after := after, metadata := metadata }
      eventFromRow prim row = .ok event' ∧ validateEventContract prim event' = .ok () ∧
        calculateEventHash prim event' = .ok event.eventHash := by
  have hvalidated := validateDraft_iff.1 hfields
  obtain ⟨beforeValue, hbeforeValue, hrow⟩ := bind_eq_ok.1 hrow
  obtain ⟨afterValue, hafterValue, hrow⟩ := bind_eq_ok.1 hrow
  obtain ⟨metadataValue, hmetadataValue, hrow⟩ := bind_eq_ok.1 hrow
  obtain ⟨before, hbefore, hbeforeSame⟩ :=
    projection_toColumn hvalidated.before hfloats.before hbeforeValue
  obtain ⟨after, hafter, hafterSame⟩ :=
    projection_toColumn hvalidated.after hfloats.after hafterValue
  obtain ⟨metadata, hmetadata, hmetadataSame⟩ :=
    validateMetadata_toJsonb hvalidated.metadata hfloats.metadata hmetadataValue
  refine ⟨before, after, metadata, ?_⟩
  intro event'
  have hsame : SamePayload event event' :=
    samePayload_of_sameJson hbeforeSame hafterSame hmetadataSame
  have hhash' : calculateEventHash prim event' = .ok event.eventHash := by
    rw [calculateEventHash_of_samePayload hsame, hhash]
  have hagain := validateDraft_iff.1 (validateDraft_draft hfields)
  have hfields' : Validated prim event'.draft event'.toAuditFields :=
    { hagain with
      before := projection_thawJson hbefore
      after := projection_thawJson hafter
      metadata := validateMetadata_thawJson hmetadata }
  have hcontract : validateEventContract prim event' = .ok () :=
    validateEventContract_of (validateDraft_iff.2 hfields') hsequence hprevious hhash'
  have hutc : validateUtc (some event.occurredAt) "OCCURRED_AT" = .ok event.occurredAt :=
    validateUtc_some hvalidated.occurredAt
  refine ⟨?_, hcontract, hhash'⟩
  cases hrow
  exact bind_eq_ok.2 ⟨_, hmetadata, bind_eq_ok.2 ⟨_, hutc,
    bind_eq_ok.2 ⟨_, toActorType_value _, bind_eq_ok.2 ⟨_, toOutcome_value _,
      bind_eq_ok.2 ⟨_, hbefore, bind_eq_ok.2 ⟨_, hafter, bind_eq_ok.2 ⟨(), hcontract, rfl⟩⟩⟩⟩⟩⟩⟩

end DaonUser.Audit.Postgres
