import Mathlib.Algebra.Order.Group.Nat
import Mathlib.Data.List.Nodup
import TokenBridge.Json.Record
import TokenBridge.Proofs.Outcome

set_option autoImplicit false

/-! # Records are read as they were written

A whole number is read at the width that it has. An object whose entries are the fields of a record,
one for one and each with a value that passes its check, is read as these entries
(`asRecord_object`). Where every field may be left out, a record is read from any object and from
any list that is not too long, if what stands in the place of each field passes its check
(`asRecord_eq_ok_iff`).
-/

namespace TokenBridge.Json

theorem asUnsigned_ofNat {width n : Nat} (h : n < 2 ^ width) :
    asUnsigned width (ofNat n) = .ok n := if_pos h

theorem asString_eq_ok_iff {v : Json} {s : String} : asString v = .ok s ↔ v = .string s := by
  cases v <;> simp [asString]

theorem asUnsigned_eq_ok_iff {width n : Nat} {v : Json} :
    asUnsigned width v = .ok n ↔ v = ofNat n ∧ n < 2 ^ width := by
  constructor
  · intro h
    unfold asUnsigned at h
    split at h
    · split at h
      · next hlt =>
          cases h
          exact ⟨rfl, hlt⟩
      · split at h <;> cases h
    · split at h <;> cases h
    · cases h
  · rintro ⟨rfl, hn⟩
    exact asUnsigned_ofNat hn

section Check

variable {α : Type} {name : String} {read : Json → Except Mismatch α} {absence : Absence}
  {v : Json}

theorem check_field_eq_ok_iff :
    (field name read absence).check v = .ok () ↔ ∃ a, read v = .ok a := by
  show (read v).map (fun _ => ()) = .ok () ↔ _
  simp [Outcome.map_eq_ok]

theorem check_field {a : α} (h : read v = .ok a) : (field name read absence).check v = .ok () :=
  check_field_eq_ok_iff.2 ⟨a, h⟩

end Check

/-! ## Objects -/

/-- The entry is that of the field, and its value is in order. -/
def Field.Fits (f : Field) (e : String × Json) : Prop := f.name = e.1 ∧ f.check e.2 = .ok ()

variable {fields : List Field} {seen entries found : List (String × Json)}

theorem find?_eq_some_of_mem (hnames : (fields.map Field.name).Nodup) {f : Field}
    (hf : f ∈ fields) : fields.find? (fun g => g.name == f.name) = some f := by
  cases hfind : fields.find? (fun g => g.name == f.name) with
  | none =>
      have hnone := List.find?_eq_none.1 hfind f hf
      exact absurd (beq_self_eq_true f.name) hnone
  | some g =>
      have hname : g.name = f.name := by simpa using List.find?_some hfind
      rw [List.inj_on_of_nodup_map hnames (List.mem_of_find?_eq_some hfind) hf hname]

/-- Some field of the record has this name. -/
def isKnown (fields : List Field) (name : String) : Bool :=
  (fields.find? fun f => f.name == name).isSome

theorem isKnown_of_mem {f : Field} (hf : f ∈ fields) : isKnown fields f.name = true :=
  List.find?_isSome.2 ⟨f, hf, beq_self_eq_true _⟩

/-- Of an object whose entries have different names, those are taken that belong to a field, if each
of them passes the check of its field. -/
theorem knownFields_eq_ok_iff (hentries : ((seen ++ entries).map Prod.fst).Nodup) :
    knownFields fields seen entries = .ok found ↔
      found = seen ++ entries.filter (fun e => isKnown fields e.1) ∧
        ∀ e ∈ entries, ∀ f, fields.find? (fun f => f.name == e.1) = some f →
          f.check e.2 = .ok () := by
  induction entries generalizing seen with
  | nil =>
      rw [knownFields, List.filter_nil, List.append_nil, Except.ok.injEq]
      exact ⟨fun h => ⟨h.symm, fun e he => nomatch he⟩, fun h => h.1.symm⟩
  | cons e rest ih =>
      obtain ⟨name, v⟩ := e
      rw [List.forall_mem_cons, List.filter_cons]
      cases hfind : fields.find? (fun f => f.name == name) with
      | none =>
          have hrest : ((seen ++ rest).map Prod.fst).Nodup :=
            hentries.sublist (((List.sublist_cons_self _ rest).append_left seen).map _)
          rw [knownFields, hfind, isKnown, hfind]
          simpa using ih hrest
      | some f =>
          -- No other entry has this name, so that it is not taken for a repeated one.
          have hnew : (seen.lookup name).isSome = false := by
            rw [← Bool.not_eq_true, List.lookup_isSome_iff]
            rintro ⟨e, he, hsame⟩
            rw [List.map_append, List.nodup_append] at hentries
            exact hentries.2.2 _ (List.mem_map_of_mem he) _ List.mem_cons_self
              (eq_of_beq hsame).symm
          rw [List.append_cons] at hentries
          have hrest := ih hentries
          rw [knownFields, hfind, isKnown, hfind]
          simp only [hnew, Bool.false_eq_true, if_false, Outcome.bind_eq_ok, hrest]
          constructor
          · rintro ⟨_, hcheck, hfound, hall⟩
            refine ⟨by simpa using hfound, ?_, hall⟩
            rintro f' ⟨⟩
            exact hcheck
          · rintro ⟨hfound, hcheck, hall⟩
            exact ⟨(), hcheck f rfl, by simpa using hfound, hall⟩

/-- Nothing is passed over and nothing is refused of entries that each have their field. -/
theorem knownFields_eq_append (hnames : (fields.map Field.name).Nodup)
    (hknown : ∀ e ∈ entries, ∃ f ∈ fields, f.Fits e)
    (hentries : ((seen ++ entries).map Prod.fst).Nodup) :
    knownFields fields seen entries = .ok (seen ++ entries) := by
  have hall : entries.filter (fun e => isKnown fields e.1) = entries := by
    refine List.filter_eq_self.2 fun e he => ?_
    obtain ⟨f, hf, hname, -⟩ := hknown e he
    rw [← hname]
    exact isKnown_of_mem hf
  refine (knownFields_eq_ok_iff hentries).2 ⟨by rw [hall], ?_⟩
  intro e he f hfind
  obtain ⟨g, hg, hname, hcheck⟩ := hknown e he
  rw [← hname, find?_eq_some_of_mem hnames hg] at hfind
  cases hfind
  exact hcheck

theorem missing?_eq_none (hall : ∀ f ∈ fields, ∃ e ∈ entries, f.Fits e) :
    missing? fields entries = none := by
  rw [missing?, Option.map_eq_none_iff, List.find?_eq_none]
  intro f hf hmissing
  obtain ⟨e, he, hname, -⟩ := hall f hf
  have hfound : (entries.lookup f.name).isSome :=
    List.lookup_isSome_iff.2 ⟨e, he, beq_iff_eq.2 hname⟩
  rw [Bool.and_eq_true, Option.isNone_iff_eq_none] at hmissing
  rw [hmissing.2] at hfound
  cases hfound

/-- The entries of an object are those of a record if they are its fields one for one. -/
theorem asRecord_object (expected : String) (hnames : (fields.map Field.name).Nodup)
    (hfits : List.Forall₂ Field.Fits fields entries) :
    asRecord expected fields (.object entries) = .ok entries := by
  have hsame : fields.map Field.name = entries.map Prod.fst := by
    rw [← List.forall₂_eq_eq_eq, List.forall₂_map_left_iff, List.forall₂_map_right_iff]
    exact hfits.imp fun _ _ h => h.1
  have hknown : knownFields fields [] entries = .ok entries :=
    knownFields_eq_append hnames (fun e => Outcome.exists_of_mem_right hfits) (hsame ▸ hnames)
  refine Outcome.bind_eq_ok.2 ⟨entries, hknown, ?_⟩
  rw [missing?_eq_none fun f => Outcome.exists_of_mem_left hfits]
  rfl

/-! ## Records that may have any entries -/

theorem missing?_of_optional (hfields : ∀ f ∈ fields, f.absence ≠ .refused) :
    missing? fields found = none := by
  rw [missing?, Option.map_eq_none_iff, List.find?_eq_none]
  intro f hf hmissing
  rw [Bool.and_eq_true, decide_eq_true_iff] at hmissing
  exact hfields f hf hmissing.1

/-- Of a list, each item goes to the field in its place. -/
theorem placedFields_eq_ok_iff {expected : String} {count index : Nat} {items : List Json}
    (hfields : ∀ f ∈ fields, f.absence = .defaulted) :
    placedFields expected count index fields items = .ok found ↔
      items.length ≤ fields.length ∧ found = (fields.map Field.name).zip items ∧
        ∀ p ∈ fields.zip items, p.1.check p.2 = .ok () := by
  induction fields generalizing index items found with
  | nil =>
      cases items with
      | nil => simp [placedFields, eq_comm]
      | cons v rest => simp [placedFields]
  | cons f fields ih =>
      obtain ⟨hf, hfields⟩ := List.forall_mem_cons.1 hfields
      cases items with
      | nil =>
          rw [placedFields, if_pos hf, ih hfields]
          simp
      | cons v rest =>
          rw [placedFields]
          simp only [Outcome.bind_eq_ok, ih hfields, List.zip_cons_cons, List.map_cons,
            List.forall_mem_cons, List.length_cons, Nat.succ_le_succ_iff]
          constructor
          · rintro ⟨_, hcheck, found', ⟨hlength, rfl, hrest⟩, h⟩
            exact ⟨hlength, (Except.ok.inj h).symm, hcheck, hrest⟩
          · rintro ⟨hlength, rfl, hcheck, hrest⟩
            exact ⟨(), hcheck, _, ⟨hlength, rfl, hrest⟩, rfl⟩

/-- What is told under each name: the entries of an object, or the items of a list with the names of
the places in which they stand. -/
def entries? (names : List String) : Json → Option (List (String × Json))
  | .object entries => some entries
  | .array items => if items.length ≤ names.length then some (names.zip items) else none
  | _ => none

/-- Where the names differ, an entry is the one that is found under its name. -/
theorem lookup_eq_some_iff_mem (hentries : (entries.map Prod.fst).Nodup) {name : String}
    {v : Json} : entries.lookup name = some v ↔ (name, v) ∈ entries := by
  rw [List.lookup_eq_some_iff]
  constructor
  · rintro ⟨before, after, rfl, -⟩
    simp
  · intro hmem
    obtain ⟨before, after, rfl⟩ := List.append_of_mem hmem
    refine ⟨before, after, rfl, fun e he => bne_iff_ne.2 ?_⟩
    rw [List.map_append, List.nodup_append] at hentries
    exact (hentries.2.2 _ (List.mem_map_of_mem he) _ List.mem_cons_self).symm

theorem asRecord_object_eq_ok_iff {expected : String} (hfields : ∀ f ∈ fields, f.absence ≠ .refused)
    (hnames : (fields.map Field.name).Nodup) (hentries : (entries.map Prod.fst).Nodup) :
    asRecord expected fields (.object entries) = .ok found ↔
      found = entries.filter (fun e => isKnown fields e.1) ∧
        ∀ f ∈ fields, ∀ v, (f.name, v) ∈ entries → f.check v = .ok () := by
  have hrecord : asRecord expected fields (.object entries) = .ok found ↔
      knownFields fields [] entries = .ok found := by
    rw [asRecord, Outcome.bind_eq_ok]
    simp only [missing?_of_optional hfields]
    constructor
    · rintro ⟨found', h, ⟨⟩⟩
      exact h
    · exact fun h => ⟨found, h, rfl⟩
  rw [hrecord, knownFields_eq_ok_iff (by rwa [List.nil_append]), List.nil_append]
  refine and_congr_right fun _ => ?_
  constructor
  · intro h f hf v hv
    exact h _ hv f (find?_eq_some_of_mem hnames hf)
  · rintro h ⟨name, v⟩ he f hfind
    obtain rfl : f.name = name := by simpa using List.find?_some hfind
    exact h f (List.mem_of_find?_eq_some hfind) v he

theorem asRecord_array_eq_ok_iff {expected : String} {items : List Json}
    (hfields : ∀ f ∈ fields, f.absence = .defaulted) (hnames : (fields.map Field.name).Nodup) :
    asRecord expected fields (.array items) = .ok found ↔
      items.length ≤ fields.length ∧ found = (fields.map Field.name).zip items ∧
        ∀ f ∈ fields, ∀ v, (f.name, v) ∈ (fields.map Field.name).zip items →
          f.check v = .ok () := by
  rw [asRecord, placedFields_eq_ok_iff hfields, List.zip_map_left]
  refine and_congr_right fun _ => and_congr_right fun _ => ?_
  constructor
  · intro h f hf v hv
    obtain ⟨⟨g, w⟩, hgw, heq⟩ := List.mem_map.1 hv
    obtain ⟨hname, rfl⟩ : g.name = f.name ∧ w = v := by simpa using heq
    rw [← List.inj_on_of_nodup_map hnames (List.of_mem_zip hgw).1 hf hname]
    exact h _ hgw
  · rintro h ⟨f, v⟩ hv
    refine h f (List.of_mem_zip hv).1 v ?_
    exact List.mem_map.2 ⟨(f, v), hv, rfl⟩

/-- No name stands twice among what is told. -/
theorem nodup_of_entries? {names : List String} {j : Json} (hnames : names.Nodup)
    (hj : ∀ entries, j = .object entries → (entries.map Prod.fst).Nodup)
    (h : entries? names j = some entries) : (entries.map Prod.fst).Nodup := by
  cases j with
  | object entries' =>
      cases h
      exact hj _ rfl
  | array items =>
      rw [entries?] at h
      split at h
      · cases h
        rw [List.zip_eq_zip_take_min, List.map_fst_zip (by simp)]
        exact hnames.sublist (List.take_sublist _ _)
      · cases h
  | _ => cases h

/-- A record of which every field may be left out is read when what stands in the place of each
field passes its check. -/
theorem asRecord_eq_ok_iff {expected : String} {j : Json}
    (hfields : ∀ f ∈ fields, f.absence = .defaulted) (hnames : (fields.map Field.name).Nodup)
    (hj : ∀ entries, j = .object entries → (entries.map Prod.fst).Nodup) :
    asRecord expected fields j = .ok found ↔
      ∃ entries, entries? (fields.map Field.name) j = some entries ∧
        found = entries.filter (fun e => isKnown fields e.1) ∧
        ∀ f ∈ fields, ∀ v, entries.lookup f.name = some v → f.check v = .ok () := by
  have hlookup : ∀ entries, entries? (fields.map Field.name) j = some entries →
      ∀ name v, entries.lookup name = some v ↔ (name, v) ∈ entries :=
    fun entries h name v => lookup_eq_some_iff_mem (nodup_of_entries? hnames hj h)
  cases j with
  | object entries =>
      have hoptional : ∀ f ∈ fields, f.absence ≠ .refused := by
        intro f hf
        rw [hfields f hf]
        decide
      rw [asRecord_object_eq_ok_iff hoptional hnames (hj entries rfl)]
      simp [entries?, hlookup entries rfl]
  | array items =>
      have hknown : ((fields.map Field.name).zip items).filter (fun e => isKnown fields e.1) =
          (fields.map Field.name).zip items := by
        refine List.filter_eq_self.2 fun e he => ?_
        obtain ⟨f, hf, hname⟩ := List.mem_map.1 (List.of_mem_zip he).1
        rw [← hname]
        exact isKnown_of_mem hf
      rw [asRecord_array_eq_ok_iff hfields hnames]
      by_cases hlength : items.length ≤ fields.length
      · have hentries : entries? (fields.map Field.name) (.array items) =
            some ((fields.map Field.name).zip items) := if_pos (by rwa [List.length_map])
        simp [hlength, hknown, hentries, hlookup _ hentries]
      · simp [entries?, hlength]
  | _ => simp [asRecord, entries?]

section Values

variable {α : Type} {name : String} {read : Json → Except Mismatch α} {default a : α}

theorem readFieldD_eq_ok_iff :
    readFieldD found name read default = .ok a ↔
      (∃ v, found.lookup name = some v ∧ read v = .ok a) ∨
        (found.lookup name = none ∧ a = default) := by
  rw [readFieldD]
  cases found.lookup name with
  | some v => simp
  | none => simp [eq_comm]

end Values

end TokenBridge.Json
