import TokenBridge.Proofs.Json.Record
import TokenBridge.Proofs.Json.RoundTrip

set_option autoImplicit false

/-! # Forms that lose nothing

A form is faithful if it reads what it has written, and looks at all of it (`Form.Faithful`). Its
values are then read back from their texts, as long as these are not nested too deeply
(`Form.Faithful.lossless`). Values that may be absent, lists and records are faithful if their parts
are.
-/

namespace TokenBridge.Json

/-! ## What fits -/

section Fits

variable {shape : Shape} {depth : Nat}

/-- A record fits if all of its fields are looked at and fit. -/
theorem fits_record {shapes : List (String × Shape)} {fields : List (String × Json)}
    (hdepth : 1 < depth)
    (h : ∀ e ∈ fields, ∃ shape, shapes.lookup e.1 = some shape ∧
      fits shape (depth - 1) e.2 = true) :
    fits (.record shapes) depth (.object fields) = true := by
  refine Bool.and_eq_true_iff.2 ⟨decide_eq_true hdepth, ?_⟩
  induction fields with
  | nil => rfl
  | cons e fields ih =>
      obtain ⟨⟨shape, hshape, hv⟩, hrest⟩ := List.forall_mem_cons.1 h
      have hfield : (Shape.record shapes).field? e.1 = some shape := hshape
      rw [fitsFields, hfield]
      exact Bool.and_eq_true_iff.2 ⟨hv, ih hrest⟩

/-- A list fits if its items do. -/
theorem fits_items {items : List Json} (hdepth : 1 < depth)
    (h : ∀ v ∈ items, fits shape (depth - 1) v = true) :
    fits (.items shape) depth (.array items) = true := by
  -- All items are looked at in the same way, wherever they stand.
  have hall : ∀ index, fitsItems (.items shape) (depth - 1) index items = true := by
    induction items with
    | nil => exact fun _ => rfl
    | cons v items ih =>
        intro index
        obtain ⟨hv, hrest⟩ := List.forall_mem_cons.1 h
        exact Bool.and_eq_true_iff.2 ⟨hv, ih hrest (index + 1)⟩
  exact Bool.and_eq_true_iff.2 ⟨decide_eq_true hdepth, hall 0⟩

end Fits

/-! ## Forms -/

namespace Form

variable {α : Type} {f : Form α} {levels : Nat}

/-- Every value is read back from its text. -/
def Lossless (f : Form α) : Prop := ∀ a, f.parse (f.print a) = some a

/-- What is written is looked at as a whole, in no more than so many levels, and read as it was. -/
structure Faithful (f : Form α) (levels : Nat) : Prop where
  fits : ∀ a {depth}, levels < depth → fits f.shape depth (f.write a) = true
  read : ∀ a, f.read (f.write a) = .ok a

theorem Faithful.lossless (h : f.Faithful levels) (hlevels : levels < depthLimit) : f.Lossless :=
  fun a => parse_print (h.fits a hlevels) (h.read a)

theorem faithful_string : string.Faithful 0 := ⟨fun _ _ _ => rfl, fun _ => rfl⟩

/-- A value that may be absent is told from its absence if it is never written as `null`. -/
theorem Faithful.optional (h : f.Faithful levels) (hnull : ∀ a, f.write a ≠ .null) :
    f.optional.Faithful levels where
  fits a _ hdepth := by
    cases a with
    | none => rfl
    | some a => exact h.fits a hdepth
  read a := by
    cases a with
    | none => rfl
    | some a =>
        have hsome : asOptional f.read (f.write a) = (f.read (f.write a)).map some := by
          rw [asOptional]
          exact hnull a
        exact hsome.trans (congrArg _ (h.read a))

theorem Faithful.list (h : f.Faithful levels) : f.list.Faithful (levels + 1) where
  fits as _ hdepth := by
    refine fits_items (by omega) ?_
    intro v hv
    obtain ⟨a, -, rfl⟩ := List.mem_map.1 hv
    exact h.fits a (by omega)
  read as := by
    refine Outcome.mapM_eq_ok.2 ?_
    rw [List.forall₂_map_left_iff]
    exact List.forall₂_same.2 fun a _ => h.read a

/-- What stands for a value of another type is read back as that value if it tells which one. -/
theorem Faithful.parse_print_via {β : Type} {read : α → Option β} {write : β → α} {b : β}
    (h : f.Faithful levels) (hlevels : levels < depthLimit) (hb : read (write b) = some b) :
    (f.via read write).parse ((f.via read write).print b) = some b := by
  refine parse_print (h.fits (write b) hlevels) ?_
  refine Outcome.bind_eq_ok.2 ⟨write b, h.read (write b), ?_⟩
  rw [hb]
  rfl

end Form
end TokenBridge.Json
