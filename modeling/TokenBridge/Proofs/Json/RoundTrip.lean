import TokenBridge.Json.Form
import TokenBridge.Proofs.Json.Number
import TokenBridge.Proofs.Json.String
import TokenBridge.Proofs.Outcome

set_option autoImplicit false

/-! # Data texts are read as they were printed

The compact text of a value is read back as that value, if every part of the value is looked at, its
numbers are whole numbers of 128 bits, and it is not nested too deeply (`readsBack`). The induction
is over the value; items and fields are taken in the text in which they follow others, where each
starts with its comma, so that one statement serves them all.
-/

namespace TokenBridge.Json

/-! ## What is between the values -/

theorem skipBlanks_cons {c : Char} (hc : c ∉ [' ', '\n', '\t', '\r']) (rest : List Char) :
    skipBlanks (c :: rest) = c :: rest := by
  have hblank : (c = ' ' || c = '\n' || c = '\t' || c = '\r') = false := by
    simpa [not_or, and_assoc] using hc
  rw [skipBlanks, List.dropWhile_cons_of_neg (by simpa using hblank)]

/-- A value starts here: neither a blank nor the end of a list. -/
def Starts (s : List Char) : Prop :=
  ∃ c rest, s = c :: rest ∧ c ∉ [' ', '\n', '\t', '\r'] ∧ c ≠ ']'

theorem nextItem_first {s : List Char} (hs : Starts s) : nextItem true s = .ok (.item s) := by
  obtain ⟨c, rest, rfl, hblank, hend⟩ := hs
  rw [nextItem, skipBlanks_cons hblank]
  split
  · next h => cases h
  · next h => exact absurd (List.cons.inj h).1 hend
  · next h =>
      cases h
      rfl

theorem nextItem_comma {s : List Char} (hs : Starts s) :
    nextItem false (',' :: s) = .ok (.item s) := by
  obtain ⟨c, rest, rfl, hblank, hend⟩ := hs
  rw [nextItem, skipBlanks_cons (by decide)]
  show (if false = true then _ else if ',' ≠ ',' then _ else _) = _
  rw [if_neg Bool.false_ne_true, if_neg (not_not.2 rfl), skipBlanks_cons hblank]
  split
  · next h => cases h
  · next h => exact absurd (List.cons.inj h).1 hend
  · rfl

theorem nextField_first (name : String) (rest : List Char) :
    nextField true (quote name ++ rest) = .ok (.field name rest) := by
  show (readString (body name ++ rest) >>= _) = _
  rw [readString_body]
  rfl

theorem nextField_comma (name : String) (rest : List Char) :
    nextField false (',' :: (quote name ++ rest)) = .ok (.field name rest) := by
  show (readString (body name ++ rest) >>= _) = _
  rw [readString_body]
  rfl

/-! ## Values -/

mutual

/-- Every part of the value is looked at, its numbers are whole numbers of 128 bits, and less than
`depth` levels are opened in it. -/
def fits (shape : Shape) (depth : Nat) : Json → Bool
  | .null | .bool _ | .string _ => true
  | .number (.integer false n) => decide (n < 2 ^ 128)
  | .number _ => false
  | .array items => decide (1 < depth) && fitsItems shape (depth - 1) 0 items
  | .object fields => decide (1 < depth) && fitsFields shape (depth - 1) fields

def fitsItems (shape : Shape) (depth index : Nat) : List Json → Bool
  | [] => true
  | v :: rest => fits (shape.item index) depth v && fitsItems shape depth (index + 1) rest

def fitsFields (shape : Shape) (depth : Nat) : List (String × Json) → Bool
  | [] => true
  | (name, v) :: rest =>
      (match shape.field? name with
        | some shape' => fits shape' depth v
        | none => false) && fitsFields shape depth rest

end

/-- The text of items that follow others. -/
def moreItems (items : List Json) : List Char := items.flatMap fun v => ',' :: printChars v

theorem moreItems_cons (v : Json) (items : List Json) :
    moreItems (v :: items) = ',' :: (printChars v ++ moreItems items) := rfl

theorem printItems_cons (v : Json) (items : List Json) :
    printItems (v :: items) = printChars v ++ moreItems items := by
  induction items generalizing v with
  | nil => rw [printItems, moreItems, List.flatMap_nil, List.append_nil]
  | cons w items ih =>
      rw [printItems, ih w, moreItems_cons]
      exact List.cons_ne_nil _ _

/-- The text of a field. -/
def fieldChars (name : String) (v : Json) : List Char := quote name ++ ':' :: printChars v

theorem fieldChars_append (name : String) (v : Json) (rest : List Char) :
    fieldChars name v ++ rest = quote name ++ ':' :: (printChars v ++ rest) := by
  rw [fieldChars, List.append_assoc, List.cons_append]

/-- The text of fields that follow others. -/
def moreFields (fields : List (String × Json)) : List Char :=
  fields.flatMap fun (name, v) => ',' :: fieldChars name v

theorem moreFields_cons (name : String) (v : Json) (fields : List (String × Json)) :
    moreFields ((name, v) :: fields) = ',' :: (fieldChars name v ++ moreFields fields) := rfl

theorem printFields_cons (name : String) (v : Json) (fields : List (String × Json)) :
    printFields ((name, v) :: fields) = fieldChars name v ++ moreFields fields := by
  induction fields generalizing name v with
  | nil => rw [printFields, moreFields, List.flatMap_nil, List.append_nil, fieldChars]
  | cons f fields ih =>
      obtain ⟨name', w⟩ := f
      rw [printFields, ih name' w, moreFields_cons, fieldChars_append name v, List.append_assoc]
      · rfl
      · exact List.cons_ne_nil _ _

theorem starts_printChars {shape : Shape} {depth : Nat} {j : Json} (h : fits shape depth j = true)
    (rest : List Char) : Starts (printChars j ++ rest) := by
  cases j with
  | null => exact ⟨'n', _, rfl, by decide, by decide⟩
  | bool b =>
      cases b with
      | true => exact ⟨'t', _, rfl, by decide, by decide⟩
      | false => exact ⟨'f', _, rfl, by decide, by decide⟩
  | string s => exact ⟨'"', _, rfl, by decide, by decide⟩
  | array items => exact ⟨'[', _, rfl, by decide, by decide⟩
  | object fields => exact ⟨'\x7b', _, rfl, by decide, by decide⟩
  | number n =>
      rcases n with ⟨_ | _, n⟩ | x
      · rw [printChars, Number.print]
        cases hdigits : Nat.toDigits 10 n with
        | nil => exact absurd hdigits Nat.toDigits_ne_nil
        | cons c cs =>
            have hc : c.isDigit = true := isDigit_toDigits (hdigits ▸ List.mem_cons_self)
            exact ⟨c, _, rfl, notMem_of_isDigit hc rfl, ne_of_isDigit hc rfl⟩
      · rw [fits] at h
        · cases h
        · exact fun _ heq => nomatch heq
      · rw [fits] at h
        · cases h
        · exact fun _ heq => nomatch heq

/-! ## Reading a value -/

section Steps

variable {shape shape' : Shape} {depth index fuel : Nat} {s start rest rest' rest'' : List Char}
  {v : Json} {items : List Json} {name : String} {fields : List (String × Json)} {first : Bool}

theorem readValue_scalar (hfuel : 0 < fuel) (hhead : readHead s = .ok (.scalar v, rest)) :
    readValue shape depth fuel s = .ok (v, rest) := by
  obtain ⟨fuel, rfl⟩ := Nat.exists_eq_add_one_of_ne_zero (Nat.ne_of_gt hfuel)
  rw [readValue, hhead]
  rfl

theorem readValue_list (hhead : readHead s = .ok (.list, rest)) (hdepth : 1 < depth)
    (hitems : readItems shape (depth - 1) 0 fuel rest = .ok (items, rest')) :
    readValue shape depth (fuel + 1) s = .ok (.array items, rest') := by
  rw [readValue, hhead]
  show (if depth ≤ 1 then _ else _) = _
  rw [if_neg (Nat.not_le.2 hdepth), hitems]
  rfl

theorem readValue_object (hhead : readHead s = .ok (.object, rest)) (hdepth : 1 < depth)
    (hfields : readFields shape (depth - 1) true fuel rest = .ok (fields, rest')) :
    readValue shape depth (fuel + 1) s = .ok (.object fields, rest') := by
  rw [readValue, hhead]
  show (if depth ≤ 1 then _ else _) = _
  rw [if_neg (Nat.not_le.2 hdepth), hfields]
  rfl

theorem readItems_nil (hfuel : 0 < fuel) :
    readItems shape depth index fuel (']' :: rest) = .ok ([], rest) := by
  obtain ⟨fuel, rfl⟩ := Nat.exists_eq_add_one_of_ne_zero (Nat.ne_of_gt hfuel)
  rw [readItems]
  rfl

theorem readItems_cons (hitem : nextItem (index = 0) s = .ok (.item start))
    (hv : readValue (shape.item index) depth fuel start = .ok (v, rest))
    (hitems : readItems shape depth (index + 1) fuel rest = .ok (items, rest')) :
    readItems shape depth index (fuel + 1) s = .ok (v :: items, rest') := by
  rw [readItems]
  refine Outcome.bind_eq_ok.2 ⟨_, hitem, ?_⟩
  refine Outcome.bind_eq_ok.2 ⟨_, hv, ?_⟩
  exact Outcome.bind_eq_ok.2 ⟨_, hitems, rfl⟩

theorem readFields_nil (hfuel : 0 < fuel) :
    readFields shape depth first fuel ('\x7d' :: rest) = .ok ([], rest) := by
  obtain ⟨fuel, rfl⟩ := Nat.exists_eq_add_one_of_ne_zero (Nat.ne_of_gt hfuel)
  rw [readFields]
  rfl

theorem readFields_cons (hfield : nextField first s = .ok (.field name (':' :: start)))
    (hshape : shape.field? name = some shape')
    (hv : readValue shape' depth fuel start = .ok (v, rest))
    (hfields : readFields shape depth false fuel rest = .ok (fields, rest')) :
    readFields shape depth first (fuel + 1) s = .ok ((name, v) :: fields, rest') := by
  rw [readFields]
  refine Outcome.bind_eq_ok.2 ⟨_, hfield, ?_⟩
  refine Outcome.bind_eq_ok.2 ⟨start, rfl, ?_⟩
  rw [hshape]
  refine Outcome.bind_eq_ok.2 ⟨_, hv, ?_⟩
  exact Outcome.bind_eq_ok.2 ⟨_, hfields, rfl⟩

end Steps

theorem readHead_word {v : Json} (hv : v = .null ∨ ∃ b, v = .bool b) (rest : List Char) :
    readHead (printChars v ++ rest) = .ok (.scalar v, rest) := by
  rcases hv with rfl | ⟨b, rfl⟩
  · rfl
  · cases b <;> rfl

theorem readHead_string (text : String) (rest : List Char) :
    readHead (quote text ++ rest) = .ok (.scalar (.string text), rest) := by
  show (readString (body text ++ rest)).map _ = _
  rw [readString_body]
  rfl

theorem readHead_number {n : Nat} (hn : n < 2 ^ 128) {rest : List Char} (hrest : Closed rest) :
    readHead (Nat.toDigits 10 n ++ rest) = .ok (.scalar (.number (.integer false n)), rest) := by
  have hread := readNumber_toDigits hn hrest
  cases hdigits : Nat.toDigits 10 n with
  | nil => exact absurd hdigits Nat.toDigits_ne_nil
  | cons c cs =>
      have hc : c.isDigit = true := isDigit_toDigits (hdigits ▸ List.mem_cons_self)
      rw [hdigits, List.cons_append] at hread
      rw [List.cons_append, readHead, skipBlanks_cons (notMem_of_isDigit hc rfl)]
      -- No other value starts with a digit.
      split
      · next h => cases h
      case h_9 h =>
        cases h
        rw [if_pos hc, hread]
        rfl
      all_goals
        next h => exact absurd (List.cons.inj h).1 (ne_of_isDigit hc rfl)

/-! ## Reading back -/

/-- The value is read back from its text, whatever follows behind its end. Every character pays for
two steps of the reader, one into a value and one to the next of a list. -/
def ReadsBack (j : Json) : Prop :=
  ∀ {shape : Shape} {depth fuel : Nat} {rest : List Char}, fits shape depth j = true →
    2 * (printChars j).length ≤ fuel → Closed rest →
    readValue shape depth fuel (printChars j ++ rest) = .ok (j, rest)

/-- The items are read back from the text in which they follow others. -/
def ItemsReadBack (items : List Json) : Prop :=
  ∀ {shape : Shape} {depth index fuel : Nat} {rest : List Char},
    fitsItems shape depth (index + 1) items = true → 2 * (moreItems items).length < fuel →
    readItems shape depth (index + 1) fuel (moreItems items ++ ']' :: rest) = .ok (items, rest)

/-- The fields are read back from the text in which they follow others. -/
def FieldsReadBack (fields : List (String × Json)) : Prop :=
  ∀ {shape : Shape} {depth fuel : Nat} {rest : List Char},
    fitsFields shape depth fields = true → 2 * (moreFields fields).length < fuel →
    readFields shape depth false fuel (moreFields fields ++ '\x7d' :: rest) = .ok (fields, rest)

theorem readsBack_word {j : Json} (hj : j = .null ∨ ∃ b, j = .bool b) : ReadsBack j := by
  intro shape depth fuel rest _ hfuel _
  refine readValue_scalar (Nat.lt_of_lt_of_le ?_ hfuel) (readHead_word hj rest)
  rcases hj with rfl | ⟨b, rfl⟩
  · decide
  · cases b <;> decide

theorem readsBack_string (s : String) : ReadsBack (.string s) := by
  intro shape depth fuel rest _ hfuel _
  refine readValue_scalar (Nat.lt_of_lt_of_le ?_ hfuel) (readHead_string s rest)
  exact Nat.mul_pos (by decide) (Nat.succ_pos _)

theorem readsBack_number (n : Number) : ReadsBack (.number n) := by
  intro shape depth fuel rest h hfuel hrest
  rcases n with ⟨_ | _, n⟩ | x
  · have hdigits : 0 < (Nat.toDigits 10 n).length := Nat.length_toDigits_pos
    refine readValue_scalar (Nat.lt_of_lt_of_le (Nat.mul_pos (by decide) hdigits) hfuel) ?_
    exact readHead_number (of_decide_eq_true h) hrest
  · cases h
  · cases h

section Lists

variable {v : Json} {items : List Json}

theorem closed_moreItems (items : List Json) (rest : List Char) :
    Closed (moreItems items ++ ']' :: rest) := by
  cases items with
  | nil => exact closed_cons (by decide) rest
  | cons v items => exact closed_cons (by decide) _

theorem itemsReadBack_nil : ItemsReadBack [] :=
  fun _ hfuel => readItems_nil (Nat.lt_of_le_of_lt (Nat.zero_le _) hfuel)

theorem itemsReadBack_cons (hv : ReadsBack v) (hitems : ItemsReadBack items) :
    ItemsReadBack (v :: items) := by
  intro shape depth index fuel rest h hfuel
  obtain ⟨hfirst, hrest⟩ := Bool.and_eq_true_iff.1 h
  have htext : moreItems (v :: items) ++ ']' :: rest =
      ',' :: (printChars v ++ (moreItems items ++ ']' :: rest)) := by
    rw [moreItems_cons, List.cons_append, List.append_assoc]
  have hlength : (moreItems (v :: items)).length =
      (printChars v).length + (moreItems items).length + 1 := by
    rw [moreItems_cons, List.length_cons, List.length_append]
  rw [hlength] at hfuel
  obtain ⟨fuel, rfl⟩ := Nat.exists_eq_add_one_of_ne_zero (Nat.ne_zero_of_lt hfuel)
  rw [htext]
  exact readItems_cons (nextItem_comma (starts_printChars hfirst _))
    (hv hfirst (by omega) (closed_moreItems items rest)) (hitems hrest (by omega))

theorem readsBack_array_nil : ReadsBack (.array []) := by
  intro shape depth fuel rest h hfuel _
  have hdepth := of_decide_eq_true (Bool.and_eq_true_iff.1 h).1
  have hfuel : 4 ≤ fuel := hfuel
  obtain ⟨fuel, rfl⟩ := Nat.exists_eq_add_one_of_ne_zero (by omega : fuel ≠ 0)
  exact readValue_list rfl hdepth (readItems_nil (by omega))

theorem readsBack_array_cons (hv : ReadsBack v) (hitems : ItemsReadBack items) :
    ReadsBack (.array (v :: items)) := by
  intro shape depth fuel rest h hfuel _
  obtain ⟨hdepth, hall⟩ := Bool.and_eq_true_iff.1 h
  obtain ⟨hfirst, hrest⟩ := Bool.and_eq_true_iff.1 hall
  have htext : printChars (.array (v :: items)) ++ rest =
      '[' :: (printChars v ++ (moreItems items ++ ']' :: rest)) := by
    rw [printChars, printItems_cons, List.cons_append, List.append_assoc, List.cons_append,
      List.append_assoc, List.append_assoc]
    rfl
  have hlength : (printChars (.array (v :: items))).length =
      (printChars v).length + (moreItems items).length + 2 := by
    rw [printChars, printItems_cons]
    simp only [List.length_append, List.length_cons, List.length_nil]
  rw [hlength] at hfuel
  obtain ⟨fuel, rfl⟩ := Nat.exists_eq_add_of_le' (by omega : 2 ≤ fuel)
  rw [htext]
  refine readValue_list rfl (of_decide_eq_true hdepth) ?_
  exact readItems_cons (nextItem_first (starts_printChars hfirst _))
    (hv hfirst (by omega) (closed_moreItems items rest)) (hitems hrest (by omega))

end Lists

section Objects

variable {name : String} {v : Json} {fields : List (String × Json)}

theorem closed_moreFields (fields : List (String × Json)) (rest : List Char) :
    Closed (moreFields fields ++ '\x7d' :: rest) := by
  cases fields with
  | nil => exact closed_cons (by decide) rest
  | cons f fields => exact closed_cons (by decide) _

theorem exists_shape {shape : Shape} {depth : Nat}
    (h : fitsFields shape depth ((name, v) :: fields) = true) :
    ∃ shape', shape.field? name = some shape' ∧ fits shape' depth v = true ∧
      fitsFields shape depth fields = true := by
  rw [fitsFields, Bool.and_eq_true_iff] at h
  cases hshape : shape.field? name with
  | none =>
      rw [hshape] at h
      cases h.1
  | some shape' =>
      rw [hshape] at h
      exact ⟨shape', rfl, h⟩

theorem fieldsReadBack_nil : FieldsReadBack [] :=
  fun _ hfuel => readFields_nil (Nat.lt_of_le_of_lt (Nat.zero_le _) hfuel)

theorem length_fieldChars (name : String) (v : Json) :
    (printChars v).length < (fieldChars name v).length := by
  rw [fieldChars, List.length_append, List.length_cons]
  omega

theorem fieldsReadBack_cons (hv : ReadsBack v) (hfields : FieldsReadBack fields) :
    FieldsReadBack ((name, v) :: fields) := by
  intro shape depth fuel rest h hfuel
  obtain ⟨shape', hshape, hfirst, hrest⟩ := exists_shape h
  have htext : moreFields ((name, v) :: fields) ++ '\x7d' :: rest =
      ',' :: (quote name ++ ':' :: (printChars v ++ (moreFields fields ++ '\x7d' :: rest))) := by
    rw [← fieldChars_append, moreFields_cons, List.cons_append, List.append_assoc]
  have hlength : (moreFields ((name, v) :: fields)).length =
      (fieldChars name v).length + (moreFields fields).length + 1 := by
    rw [moreFields_cons, List.length_cons, List.length_append]
  have hfield := length_fieldChars name v
  rw [hlength] at hfuel
  obtain ⟨fuel, rfl⟩ := Nat.exists_eq_add_one_of_ne_zero (Nat.ne_zero_of_lt hfuel)
  rw [htext]
  exact readFields_cons (nextField_comma name _) hshape
    (hv hfirst (by omega) (closed_moreFields fields rest)) (hfields hrest (by omega))

theorem readsBack_object_nil : ReadsBack (.object []) := by
  intro shape depth fuel rest h hfuel _
  have hdepth := of_decide_eq_true (Bool.and_eq_true_iff.1 h).1
  have hfuel : 4 ≤ fuel := hfuel
  obtain ⟨fuel, rfl⟩ := Nat.exists_eq_add_one_of_ne_zero (by omega : fuel ≠ 0)
  exact readValue_object rfl hdepth (readFields_nil (by omega))

theorem readsBack_object_cons (hv : ReadsBack v) (hfields : FieldsReadBack fields) :
    ReadsBack (.object ((name, v) :: fields)) := by
  intro shape depth fuel rest h hfuel _
  obtain ⟨hdepth, hall⟩ := Bool.and_eq_true_iff.1 h
  obtain ⟨shape', hshape, hfirst, hrest⟩ := exists_shape hall
  have htext : printChars (.object ((name, v) :: fields)) ++ rest =
      '\x7b' :: (quote name ++ ':' :: (printChars v ++ (moreFields fields ++ '\x7d' :: rest))) := by
    rw [← fieldChars_append, printChars, printFields_cons, List.cons_append, List.append_assoc,
      List.cons_append, List.append_assoc, List.append_assoc]
    rfl
  have hlength : (printChars (.object ((name, v) :: fields))).length =
      (fieldChars name v).length + (moreFields fields).length + 2 := by
    rw [printChars, printFields_cons]
    simp only [List.length_append, List.length_cons, List.length_nil]
  have hfield := length_fieldChars name v
  rw [hlength] at hfuel
  obtain ⟨fuel, rfl⟩ := Nat.exists_eq_add_of_le' (by omega : 2 ≤ fuel)
  rw [htext]
  refine readValue_object rfl (of_decide_eq_true hdepth) ?_
  exact readFields_cons (nextField_first name _) hshape
    (hv hfirst (by omega) (closed_moreFields fields rest)) (hfields hrest (by omega))

end Objects

mutual

theorem readsBack : (j : Json) → ReadsBack j
  | .null => readsBack_word (.inl rfl)
  | .bool b => readsBack_word (.inr ⟨b, rfl⟩)
  | .number n => readsBack_number n
  | .string s => readsBack_string s
  | .array [] => readsBack_array_nil
  | .array (v :: items) => readsBack_array_cons (readsBack v) (itemsReadBack items)
  | .object [] => readsBack_object_nil
  | .object ((_, v) :: fields) => readsBack_object_cons (readsBack v) (fieldsReadBack fields)

theorem itemsReadBack : (items : List Json) → ItemsReadBack items
  | [] => itemsReadBack_nil
  | v :: items => itemsReadBack_cons (readsBack v) (itemsReadBack items)

theorem fieldsReadBack : (fields : List (String × Json)) → FieldsReadBack fields
  | [] => fieldsReadBack_nil
  | (_, v) :: fields => fieldsReadBack_cons (readsBack v) (fieldsReadBack fields)

end

/-! ## What fits -/

section Fits

variable {depth : Nat}

theorem fits_ofNat {width n : Nat} (h : n < 2 ^ width) (hwidth : width ≤ 128) (shape : Shape) :
    fits shape depth (ofNat n) = true :=
  decide_eq_true (Nat.lt_of_lt_of_le h (Nat.pow_le_pow_right (by decide) hwidth))

/-- A record fits if it has no other fields than those looked at. -/
theorem fits_flat {names : List String} {fields : List (String × Json)} (hdepth : 1 < depth)
    (h : ∀ e ∈ fields, e.1 ∈ names ∧ fits .all (depth - 1) e.2 = true) :
    fits (.flat names) depth (.object fields) = true := by
  have hshape : ∀ name ∈ names, (Shape.flat names).field? name = some .all := by
    intro name hname
    -- Every name in the table stands for `all`, whichever of them is found first.
    have hall : ∀ p ∈ names.map (·, Shape.all), p.2 = .all := by simp
    have hmem : (name, Shape.all) ∈ names.map (·, Shape.all) := List.mem_map_of_mem hname
    cases hlookup : (names.map (·, Shape.all)).lookup name with
    | none => simpa using List.lookup_eq_none_iff.1 hlookup _ hmem
    | some shape =>
        obtain ⟨before, after, hsplit, -⟩ := List.lookup_eq_some_iff.1 hlookup
        have hshape := hall (name, shape) (by simp [hsplit])
        exact hlookup.trans (congrArg some hshape)
  refine Bool.and_eq_true_iff.2 ⟨decide_eq_true hdepth, ?_⟩
  induction fields with
  | nil => rfl
  | cons e fields ih =>
      obtain ⟨⟨hname, hv⟩, hrest⟩ := List.forall_mem_cons.1 h
      rw [fitsFields, hshape e.1 hname]
      exact Bool.and_eq_true_iff.2 ⟨hv, ih hrest⟩

/-- An object that names a case fits if its content fits that case. -/
theorem fits_choice {cases : List (String × Shape)} {name : String} {shape : Shape} {v : Json}
    (hdepth : 1 < depth) (hcase : cases.lookup name = some shape)
    (h : fits shape (depth - 1) v = true) : fits (.choice cases) depth (.object [(name, v)]) = true := by
  have hfield : (Shape.choice cases).field? name = some shape := by
    rw [Shape.field?, hcase]
    rfl
  refine Bool.and_eq_true_iff.2 ⟨decide_eq_true hdepth, ?_⟩
  rw [fitsFields, hfield]
  exact Bool.and_eq_true_iff.2 ⟨h, rfl⟩

end Fits

/-! ## Whole texts -/

/-- A value is read back from its text. -/
theorem readText_print {shape : Shape} {j : Json} (h : fits shape depthLimit j = true) :
    readText shape j.print = .ok j := by
  have hread := readsBack j h (Nat.le_add_right _ 2) closed_nil
  rw [List.append_nil] at hread
  rw [readText, print, String.toList_ofList, hread]
  rfl

theorem parse_print {j : Json} (h : fits .all depthLimit j = true) :
    parse j.print = .ok j.settle := by
  rw [parse, readText_print h]

/-- If a form reads what it writes, it reads it from the text as well. -/
theorem Form.parse_print {α : Type} {f : Form α} {a : α}
    (hfits : fits f.shape depthLimit (f.write a) = true) (hread : f.read (f.write a) = .ok a) :
    f.parse (f.print a) = some a := by
  rw [parse, print, parseShape, readText_print hfits]
  show (f.read (f.write a)).toOption = some a
  rw [hread]
  rfl

end TokenBridge.Json
