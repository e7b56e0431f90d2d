import Mathlib.Data.List.TakeWhile
import TokenBridge.Http
import TokenBridge.Proofs.Outcome
import TokenBridge.Proofs.Text.Bech32

set_option autoImplicit false

/-! # Segments of a path

A path is cut at its slashes, so that no segment holds one (`slash_notMem_of_mem_segments`).
Segments of ordinary characters are the pieces as they were given, in whatever path they are put
(`names_suffix`). What is put behind the URL of a server ends its path, if that URL has no query and
no fragment (`path_of_resolve`).
-/

namespace TokenBridge

/-! ## Pieces -/

namespace Pieces

variable {isMark : Char → Bool}

theorem cut_cons_of_mark {m : Char} (hm : isMark m = true) (cs : List Char) :
    cut isMark (m :: cs) = [] :: cut isMark cs := if_pos hm

theorem cut_cons_of_not {c : Char} (hc : isMark c = false) {cs piece : List Char}
    {pieces : List (List Char)} (h : cut isMark cs = piece :: pieces) :
    cut isMark (c :: cs) = (c :: piece) :: pieces := by
  rw [cut, if_neg (by simp [hc]), h]

theorem exists_cut_eq_cons (isMark : Char → Bool) (cs : List Char) :
    ∃ piece pieces, cut isMark cs = piece :: pieces := by
  cases h : cut isMark cs with
  | nil =>
      have hlength := length_cut isMark cs
      rw [h] at hlength
      cases hlength
  | cons piece pieces => exact ⟨piece, pieces, rfl⟩

/-- A text is cut at a mark into the pieces before it and those behind it. -/
theorem cut_append {m : Char} (hm : isMark m = true) (xs ys : List Char) :
    cut isMark (xs ++ m :: ys) = cut isMark xs ++ cut isMark ys := by
  induction xs with
  | nil => exact cut_cons_of_mark hm ys
  | cons c xs ih =>
      rw [List.cons_append]
      by_cases hc : isMark c = true
      · rw [cut_cons_of_mark hc, ih, cut_cons_of_mark hc, List.cons_append]
      · have hc : isMark c = false := Bool.eq_false_iff.2 hc
        obtain ⟨piece, pieces, hpiece⟩ := exists_cut_eq_cons isMark xs
        rw [hpiece, List.cons_append] at ih
        rw [cut_cons_of_not hc hpiece, cut_cons_of_not hc ih, List.cons_append]

theorem cut_of_unmarked {cs : List Char} (h : ∀ c ∈ cs, isMark c = false) :
    cut isMark cs = [cs] := by
  induction cs with
  | nil => rfl
  | cons c cs ih =>
      obtain ⟨hc, hcs⟩ := List.forall_mem_cons.1 h
      exact cut_cons_of_not hc (ih hcs)

/-- Pieces without marks that are put together with marks are found again. -/
theorem cut_intercalate {m : Char} (hm : isMark m = true) {pieces : List (List Char)}
    (hne : pieces ≠ []) (h : ∀ piece ∈ pieces, ∀ c ∈ piece, isMark c = false) :
    cut isMark ([m].intercalate pieces) = pieces := by
  induction pieces with
  | nil => exact absurd rfl hne
  | cons piece pieces ih =>
      obtain ⟨hpiece, hrest⟩ := List.forall_mem_cons.1 h
      cases pieces with
      | nil =>
          rw [List.intercalate_singleton]
          exact cut_of_unmarked hpiece
      | cons next pieces =>
          rw [List.intercalate_cons_cons, List.append_assoc, List.singleton_append, cut_append hm,
            cut_of_unmarked hpiece, ih (List.cons_ne_nil _ _) hrest]
          rfl

/-- No piece holds a mark. -/
theorem unmarked_of_mem_cut {cs piece : List Char} (h : piece ∈ cut isMark cs) :
    ∀ c ∈ piece, isMark c = false := by
  induction cs generalizing piece with
  | nil =>
      rw [cut, List.mem_singleton] at h
      rw [h]
      exact List.forall_mem_nil _
  | cons d cs ih =>
      by_cases hd : isMark d = true
      · rw [cut_cons_of_mark hd] at h
        rcases List.mem_cons.1 h with rfl | h
        · exact List.forall_mem_nil _
        · exact ih h
      · have hd : isMark d = false := Bool.eq_false_iff.2 hd
        obtain ⟨first, pieces, hfirst⟩ := exists_cut_eq_cons isMark cs
        rw [cut_cons_of_not hd hfirst] at h
        rcases List.mem_cons.1 h with rfl | h
        · refine List.forall_mem_cons.2 ⟨hd, ih ?_⟩
          rw [hfirst]
          exact List.mem_cons_self
        · refine ih ?_
          rw [hfirst]
          exact List.mem_cons_of_mem _ h

end Pieces

namespace Url.Path

/-! ## Encoded pieces -/

/-- A character that stands for itself in a path, and cuts nothing off. -/
def isOrdinary (c : Char) : Bool :=
  decide (c.toNat < 128) && !Percent.isControl (UInt8.ofNat c.toNat) && !pathSet.contains c &&
    !isSlash c

theorem encodeText_of_ordinary {cs : List Char} (h : ∀ c ∈ cs, isOrdinary c = true) :
    encodeText pathSet cs = String.ofList cs := by
  have hparts : ∀ c ∈ cs, c.toNat < 128 ∧ Percent.isControl (UInt8.ofNat c.toNat) = false ∧
      pathSet.contains c = false := by
    intro c hc
    have hc := h c hc
    simp only [isOrdinary, Bool.and_eq_true, decide_eq_true_eq, Bool.not_eq_true'] at hc
    exact ⟨hc.1.1.1, hc.1.1.2, hc.1.2⟩
  rw [encodeText, Percent.encode, Utf8.encode_ofList_of_ascii fun c hc => (hparts c hc).1,
    List.flatMap_map]
  refine congrArg String.ofList ?_
  have hone : ∀ c ∈ cs, Percent.encodeByte pathSet (UInt8.ofNat c.toNat) = [c] := by
    intro c hc
    obtain ⟨hsmall, hcontrol, hset⟩ := hparts c hc
    rw [Percent.encodeByte, Utf8.ofNat_toNat_of_ascii hsmall, hcontrol, hset]
    rfl
  rw [List.flatMap_congr hone, List.flatMap_singleton']

/-- Encoding brings no slash into a text. -/
theorem slash_mem_of_encodeText {set cs : List Char} (h : '/' ∈ (encodeText set cs).toList) :
    '/' ∈ cs := by
  rw [encodeText, String.toList_ofList, Percent.encode] at h
  -- The slash is written for some byte, and neither the percent sign nor digits are slashes.
  obtain ⟨b, hb, hslash⟩ := List.mem_flatMap.1 h
  have hdigit : ∀ n < 16, '/' ≠ Percent.upperDigit n := by decide
  have hsize := b.toNat_lt
  have hbyte : '/' = Char.ofNat b.toNat := by
    rw [Percent.encodeByte] at hslash
    split at hslash
    · simp only [List.mem_cons, List.not_mem_nil, or_false] at hslash
      rcases hslash with hpercent | hhigh | hlow
      · exact absurd hpercent (by decide)
      · exact absurd hhigh (hdigit _ (by omega))
      · exact absurd hlow (hdigit _ (by omega))
    · exact List.mem_singleton.1 hslash
  have hsmall : b.toNat < 128 := by
    have hall : ∀ n < 256, '/' = Char.ofNat n → n < 128 := by decide +kernel
    exact hall _ hsize hbyte
  have hmem := Utf8.mem_of_mem_encode hb hsmall
  rwa [← hbyte, String.toList_ofList] at hmem

/-! ## Walks -/

/-- Neither a point nor two, in any way of writing them. -/
def IsName (segment : String) : Prop := isPoint segment = false ∧ isTwoPoints segment = false

/-- All ways of writing points start with a point or a percent sign. -/
theorem isName_of_head {segment : String} (hpoint : segment.toList.head? ≠ some '.')
    (hpercent : segment.toList.head? ≠ some '%') : IsName segment := by
  have hone : ∀ p ∈ points, p.toList.head? = some '.' ∨ p.toList.head? = some '%' := by decide
  have htwo : ∀ p ∈ points, ∀ q ∈ points,
      (p ++ q).toList.head? = some '.' ∨ (p ++ q).toList.head? = some '%' := by decide
  constructor
  · rw [Bool.eq_false_iff]
    intro h
    rcases hone segment (List.contains_iff_mem.1 h) with h | h
    · exact hpoint h
    · exact hpercent h
  · rw [Bool.eq_false_iff]
    intro h
    obtain ⟨p, hp, h⟩ := List.any_eq_true.1 h
    obtain ⟨q, hq, h⟩ := List.any_eq_true.1 h
    rw [← eq_of_beq h] at hpoint hpercent
    rcases htwo p hp q hq with h | h
    · exact hpoint h
    · exact hpercent h

/-- Names are entered one after another. -/
theorem walk_names {names : List String} (hne : names ≠ []) (h : ∀ s ∈ names, IsName s)
    (done : List String) : walk false done names = done.reverse ++ names := by
  induction names generalizing done with
  | nil => exact absurd rfl hne
  | cons s names ih =>
      obtain ⟨⟨hpoint, htwo⟩, hrest⟩ := List.forall_mem_cons.1 h
      cases names with
      | nil =>
          rw [walk, if_neg (by simp [htwo]), if_neg (by simp [hpoint])]
          exact List.reverse_cons
      | cons t names =>
          rw [walk, if_neg (by simp [htwo]), if_neg (by simp [hpoint]),
            ih (List.cons_ne_nil _ _) hrest]
          · show (s :: done).reverse ++ _ = _
            rw [List.reverse_cons, List.append_assoc]
            rfl
          · exact List.cons_ne_nil _ _

/-- Wherever the first segments lead to, the others are walked from there. -/
theorem exists_walk_append {last : List String} (hne : last ≠ []) (first done : List String) :
    ∃ place, walk false done (first ++ last) = walk false place last := by
  induction first generalizing done with
  | nil => exact ⟨done, rfl⟩
  | cons s first ih =>
      have hnext : first ++ last ≠ [] := fun h => hne (List.append_eq_nil_iff.1 h).2
      rw [List.cons_append, walk]
      · split
        · exact ih _
        · split
          · exact ih _
          · exact ih _
      · exact hnext

theorem mem_of_mem_back {done : List String} {s : String} (h : s ∈ back done) : s ∈ done := by
  cases done with
  | nil => cases h
  | cons t done =>
      rw [back] at h
      split at h
      · exact h
      · exact List.mem_cons_of_mem _ h

/-- A walk leads through the given segments only, and may end at a slash. -/
theorem mem_of_mem_walk {done segments : List String} {s : String}
    (h : s ∈ walk false done segments) : s ∈ done ∨ s ∈ segments ∨ s = "" := by
  induction segments generalizing done with
  | nil => exact .inl (List.mem_reverse.1 h)
  | cons t segments ih =>
      cases segments with
      | nil =>
          rw [walk] at h
          split at h
          · rcases List.mem_cons.1 (List.mem_reverse.1 h) with h | h
            · exact .inr (.inr h)
            · exact .inl (mem_of_mem_back h)
          · split at h
            · rcases List.mem_cons.1 (List.mem_reverse.1 h) with h | h
              · exact .inr (.inr h)
              · exact .inl h
            · rcases List.mem_cons.1 (List.mem_reverse.1 h) with h | h
              · exact .inr (.inl (h ▸ List.mem_cons_self))
              · exact .inl h
      | cons u segments =>
          -- From whatever place the first segment leads to, the rest is walked.
          have hrest : ∀ {place : List String}, s ∈ walk false place (u :: segments) →
              (s ∈ place → s = t ∨ s ∈ done) → s ∈ done ∨ s ∈ t :: u :: segments ∨ s = "" := by
            intro place hs hplace
            rcases ih hs with hs | hs | hs
            · rcases hplace hs with rfl | hs
              · exact .inr (.inl List.mem_cons_self)
              · exact .inl hs
            · exact .inr (.inl (List.mem_cons_of_mem _ hs))
            · exact .inr (.inr hs)
          rw [walk] at h
          · split at h
            · exact hrest h fun hs => .inr (mem_of_mem_back hs)
            · split at h
              · exact hrest h .inr
              · exact hrest h List.mem_cons.1
          · exact List.cons_ne_nil _ _

/-! ## Segments -/

theorem slash_notMem_of_mem_segments {cs : List Char} {s : String}
    (h : s ∈ segments false isSlash cs) : '/' ∉ s.toList := by
  unfold segments at h
  rcases mem_of_mem_walk h with h | h | rfl
  · cases h
  · obtain ⟨piece, hpiece, rfl⟩ := List.mem_map.1 h
    intro hslash
    have hmark := Pieces.unmarked_of_mem_cut hpiece '/' (slash_mem_of_encodeText hslash)
    cases hmark
  · decide

/-- Names of ordinary characters are the last segments of every path that they end. -/
theorem segments_append {rest : List Char}
    (hnames : ∀ piece ∈ Pieces.cut isSlash rest, IsName (encodeText pathSet piece))
    (base : List Char) :
    (Pieces.cut isSlash rest).map (encodeText pathSet) <:+
      segments false isSlash (base ++ '/' :: rest) := by
  have hne : (Pieces.cut isSlash rest).map (encodeText pathSet) ≠ [] := by
    obtain ⟨piece, pieces, hcut⟩ := Pieces.exists_cut_eq_cons isSlash rest
    rw [hcut]
    exact List.cons_ne_nil _ _
  have hall : ∀ s ∈ (Pieces.cut isSlash rest).map (encodeText pathSet), IsName s := by
    intro s hs
    obtain ⟨piece, hpiece, rfl⟩ := List.mem_map.1 hs
    exact hnames piece hpiece
  -- Where the walk over the pieces in front has led to does not matter, since names only lead on.
  have hwalk : ∀ first, (Pieces.cut isSlash rest).map (encodeText pathSet) <:+
      walk false [] (first ++ (Pieces.cut isSlash rest).map (encodeText pathSet)) := by
    intro first
    obtain ⟨place, hplace⟩ := exists_walk_append hne first []
    rw [hplace, walk_names hne hall]
    exact List.suffix_append _ _
  have hcut : ∀ front, Pieces.cut isSlash (front ++ '/' :: rest) =
      Pieces.cut isSlash front ++ Pieces.cut isSlash rest := fun front =>
    Pieces.cut_append rfl front rest
  cases base with
  | nil => exact hwalk []
  | cons c base =>
      unfold segments
      dsimp only [List.cons_append]
      split
      · rw [hcut, List.map_append]
        exact hwalk _
      · rw [← List.cons_append, hcut, List.map_append]
        exact hwalk _

/-- Slashes between names of ordinary characters give these names as pieces. -/
theorem encodeText_cut_names {names : List String} (hne : names ≠ [])
    (h : ∀ s ∈ names, ∀ c ∈ s.toList, isOrdinary c = true) :
    (Pieces.cut isSlash (['/'].intercalate (names.map String.toList))).map (encodeText pathSet) =
      names := by
  have hunmarked : ∀ piece ∈ names.map String.toList, ∀ c ∈ piece, isSlash c = false := by
    intro piece hpiece c hc
    obtain ⟨s, hs, rfl⟩ := List.mem_map.1 hpiece
    have hordinary := h s hs c hc
    simp only [isOrdinary, Bool.and_eq_true, Bool.not_eq_true'] at hordinary
    exact hordinary.2
  have hencode : ∀ s ∈ names, encodeText pathSet s.toList = s := by
    intro s hs
    rw [encodeText_of_ordinary (h s hs), String.ofList_toList]
  have hpieces : names.map String.toList ≠ [] := fun hnil => hne (List.map_eq_nil_iff.1 hnil)
  rw [Pieces.cut_intercalate rfl hpieces hunmarked, List.map_map]
  exact (List.map_congr_left hencode).trans (List.map_id' _)

theorem names_suffix {names : List String} (hne : names ≠ [])
    (hchars : ∀ s ∈ names, ∀ c ∈ s.toList, isOrdinary c = true) (hnames : ∀ s ∈ names, IsName s)
    (base : List Char) :
    names <:+
      segments false isSlash (base ++ '/' :: ['/'].intercalate (names.map String.toList)) := by
  have hcut := encodeText_cut_names hne hchars
  have hsuffix := segments_append
    (fun piece hpiece => hnames _ (hcut ▸ List.mem_map_of_mem hpiece)) base
  rwa [hcut] at hsuffix

end Url.Path

/-! ## Behind the URL of a server -/

namespace Url

/-- A text never goes on in a part that was over in front of it. -/
theorem dropWhile_append_of_head {p : Char → Bool} {ys : List Char} {c : Char}
    (hhead : ys.head? = some c) (hc : p c = false) (xs : List Char) :
    (xs ++ ys).dropWhile p = xs.dropWhile p ++ ys := by
  obtain ⟨rest, rfl⟩ := List.head?_eq_some_iff.1 hhead
  rw [List.dropWhile_append]
  split
  · next hempty => rw [List.isEmpty_iff.1 hempty, List.dropWhile_cons_of_neg (by simp [hc])]; rfl
  · rfl

def isEdge (c : Char) : Bool := c.toNat ≤ 0x20

def isDropped (c : Char) : Bool := c = '\t' || c = '\n' || c = '\r'

/-- What counts of a text: neither the edges around it, nor tabs and line ends within it. -/
def cleaned (cs : List Char) : List Char :=
  ((cs.dropWhile isEdge).reverse.dropWhile isEdge).reverse.filter fun c => !isDropped c

theorem parse_eq (s : String) :
    parse s =
      match splitScheme (cleaned s.toList) with
      | none => .error .relative
      | some (scheme, rest) =>
          match usualPorts.lookup scheme with
          | some port => parseHosted scheme port rest
          | none => if scheme = "file" then parseFile rest else parseOther scheme rest := rfl

/-- A path that counts as it stands, and in which nothing else begins. -/
structure IsPlainPath (path : List Char) : Prop where
  head : path.head? = some '/'
  kept : ∀ c ∈ path, isEdge c = false
  query : '?' ∉ path
  fragment : '#' ∉ path

theorem isDropped_of_not_isEdge {c : Char} (h : isEdge c = false) : isDropped c = false := by
  rw [Bool.eq_false_iff]
  intro hdropped
  simp only [isDropped, Bool.or_eq_true, decide_eq_true_eq] at hdropped
  rcases hdropped with (rfl | rfl) | rfl <;> cases h

/-- A plain path is put behind what counts of a text; in between there may be edges of that text. -/
theorem cleaned_append {path : List Char} (hpath : IsPlainPath path) (cs : List Char) :
    ∃ between, (∀ c ∈ between, isEdge c = true) ∧
      cleaned (cs ++ path) = cleaned cs ++ between ++ path := by
  have hfront : (cs ++ path).dropWhile isEdge = cs.dropWhile isEdge ++ path :=
    dropWhile_append_of_head hpath.head rfl cs
  -- The last character of the path counts, so at the end nothing is taken off, while the text alone
  -- may have lost edges there.
  have hback : (cs.dropWhile isEdge ++ path).reverse.dropWhile isEdge =
      path.reverse ++ (cs.dropWhile isEdge).reverse := by
    rw [List.reverse_append]
    cases hlast : path.reverse with
    | nil =>
        rw [List.reverse_eq_nil_iff.1 hlast] at hpath
        cases hpath.head
    | cons c rest =>
        have hc : isEdge c = false := hpath.kept c (List.mem_reverse.1 (hlast ▸ List.mem_cons_self))
        rw [List.cons_append, List.dropWhile_cons_of_neg (by simp [hc])]
  have hedges := List.takeWhile_append_dropWhile (p := isEdge) (l := (cs.dropWhile isEdge).reverse)
  have hkept : path.filter (fun c => !isDropped c) = path := by
    refine List.filter_eq_self.2 fun c hc => ?_
    rw [isDropped_of_not_isEdge (hpath.kept c hc)]
    rfl
  refine ⟨((cs.dropWhile isEdge).reverse.takeWhile isEdge).reverse.filter fun c => !isDropped c,
    fun c hc => ?_, ?_⟩
  · have hc := List.mem_reverse.1 (List.mem_of_mem_filter hc)
    exact List.mem_takeWhile_imp hc
  · rw [cleaned, hfront, hback, List.reverse_append, List.reverse_reverse, List.reverse_reverse,
      List.filter_append, hkept, cleaned, ← List.filter_append, ← List.reverse_append, hedges,
      List.reverse_reverse]

/-- What is put behind a text changes nothing before the first colon. -/
theorem splitScheme_append {cs rest : List Char} {scheme : String}
    (h : splitScheme cs = some (scheme, rest)) (more : List Char) :
    splitScheme (cs ++ more) = some (scheme, rest ++ more) := by
  unfold splitScheme at h
  split at h
  · next after hafter hhead =>
      obtain ⟨rfl, rfl⟩ := Prod.mk.inj (Option.some.inj h)
      have hcs : cs = cs.takeWhile isSchemeChar ++ ':' :: after := by
        rw [← hafter, List.takeWhile_append_dropWhile]
      have hdrop : (cs ++ more).dropWhile isSchemeChar = ':' :: (after ++ more) := by
        rw [List.dropWhile_append, hafter]
        rfl
      have htake : (cs ++ more).takeWhile isSchemeChar = cs.takeWhile isSchemeChar := by
        have hsame : (cs ++ more).takeWhile isSchemeChar ++ ':' :: (after ++ more) =
            cs.takeWhile isSchemeChar ++ ':' :: (after ++ more) := by
          rw [← hdrop, List.takeWhile_append_dropWhile, hdrop]
          conv_lhs => rw [hcs]
          simp
        exact List.append_cancel_right hsame
      have hletter : (cs ++ more).head?.map Char.isAlpha = some true := by
        cases cs with
        | nil => cases hhead
        | cons c cs => exact hhead
      rw [splitScheme, hdrop, hletter, htake]
      rfl
  · cases h

/-! ### Hosts -/

/-- Where the path of a URL begins that names a host. -/
def behindAuthority (cs : List Char) : List Char :=
  (cs.dropWhile isSlash).dropWhile fun c => !endsAuthority true c

/-- The path, the query and the fragment of a URL that names a host are those behind the host. -/
theorem parts_of_parseHosted {scheme : String} {port : Nat} {cs : List Char} {u : Url}
    (h : parseHosted scheme port cs = .ok u) :
    cs.dropWhile isSlash ≠ [] ∧
      u.path = Path.ofSegments (Path.segments false isSlash (splitPath true (behindAuthority cs)).1) ∧
      u.query = (splitPath true (behindAuthority cs)).2.1 ∧
      u.fragment = (splitPath true (behindAuthority cs)).2.2 := by
  unfold parseHosted at h
  dsimp only at h
  split at h
  · cases h
  · next hhost =>
      obtain ⟨host, -, h⟩ := Outcome.bind_eq_ok.1 h
      obtain ⟨port', -, h⟩ := Outcome.bind_eq_ok.1 h
      cases h
      refine ⟨fun hempty => hhost ?_, rfl, rfl, rfl⟩
      rw [hempty]
      rfl

theorem scheme_of_parseOtherHosted {scheme : String} {cs : List Char} {u : Url}
    (h : parseOtherHosted scheme cs = .ok u) : u.scheme = scheme := by
  unfold parseOtherHosted at h
  extract_lets authority rest goOn at h
  have hrest : ∀ parts, goOn parts = .ok u → u.scheme = scheme := by
    rintro ⟨before, authority⟩ h
    dsimp only [goOn] at h
    obtain ⟨host, -, h⟩ := Outcome.bind_eq_ok.1 h
    split at h
    · cases h
    · obtain ⟨port, -, h⟩ := Outcome.bind_eq_ok.1 h
      split at h
      · cases h
      · cases h
        rfl
  split at h
  · split at h
    · exact hrest ([], []) h
    · cases h
  · exact hrest _ h
  · exact hrest ([], authority) h

theorem scheme_of_parseOther {scheme : String} {cs : List Char} {u : Url}
    (h : parseOther scheme cs = .ok u) : u.scheme = scheme := by
  unfold parseOther at h
  split at h
  · exact scheme_of_parseOtherHosted h
  · cases h
    rfl

theorem scheme_of_parseFile {cs : List Char} {u : Url} (h : parseFile cs = .ok u) :
    u.scheme = "file" := by
  obtain ⟨parts, -, h⟩ := Outcome.bind_eq_ok.1 h
  cases h
  rfl

/-- A URL of the web names a host. -/
theorem exists_parseHosted {s : String} {u : Url} (h : parse s = .ok u)
    (hscheme : u.scheme = "http" ∨ u.scheme = "https") :
    ∃ scheme rest port, splitScheme (cleaned s.toList) = some (scheme, rest) ∧
      usualPorts.lookup scheme = some port ∧ parseHosted scheme port rest = .ok u := by
  rw [parse_eq] at h
  cases hsplit : splitScheme (cleaned s.toList) with
  | none =>
      rw [hsplit] at h
      cases h
  | some parts =>
      obtain ⟨scheme, rest⟩ := parts
      rw [hsplit] at h
      dsimp only at h
      cases hport : usualPorts.lookup scheme with
      | some port =>
          rw [hport] at h
          exact ⟨scheme, rest, port, rfl, hport, h⟩
      | none =>
          rw [hport] at h
          dsimp only at h
          split at h
          · rw [scheme_of_parseFile h] at hscheme
            exact absurd hscheme (by decide)
          · rw [scheme_of_parseOther h] at hscheme
            rcases hscheme with rfl | rfl <;> cases hport

/-! ### Queries and fragments -/

theorem splitFirst_of_notMem {mark : Char} {cs : List Char} (h : mark ∉ cs) :
    splitFirst mark cs = (cs, none) := by
  have hdrop : cs.dropWhile (· ≠ mark) = [] := by
    rw [List.dropWhile_eq_nil_iff]
    intro c hc
    exact decide_eq_true (ne_of_mem_of_not_mem hc h)
  rw [splitFirst, hdrop]

theorem notMem_of_splitFirst {mark : Char} {cs : List Char} (h : (splitFirst mark cs).2 = none) :
    mark ∉ cs := by
  intro hmem
  unfold splitFirst at h
  split at h
  · cases h
  · next hdrop => simpa using List.dropWhile_eq_nil_iff.1 hdrop mark hmem

theorem splitPath_of_notMem {special : Bool} {cs : List Char} (hquery : '?' ∉ cs)
    (hfragment : '#' ∉ cs) : splitPath special cs = (cs, none, none) := by
  rw [splitPath, splitFirst_of_notMem hfragment]
  dsimp only
  rw [splitFirst_of_notMem hquery]
  rfl

theorem notMem_of_splitPath {special : Bool} {cs : List Char}
    (hquery : (splitPath special cs).2.1 = none) (hfragment : (splitPath special cs).2.2 = none) :
    '?' ∉ cs ∧ '#' ∉ cs := by
  have hnone : '#' ∉ cs := notMem_of_splitFirst (Option.map_eq_none_iff.1 hfragment)
  refine ⟨?_, hnone⟩
  have hfront : (splitFirst '?' (splitFirst '#' cs).1).2 = none := Option.map_eq_none_iff.1 hquery
  rw [splitFirst_of_notMem hnone] at hfront
  exact notMem_of_splitFirst hfront

/-! ### Servers -/

/-- What is put behind the URL of a server comes behind its host. -/
theorem behindAuthority_append {cs path : List Char} (hne : cs.dropWhile isSlash ≠ [])
    (hpath : path.head? = some '/') (between : List Char) :
    ∃ base, behindAuthority (cs ++ between ++ path) = base ++ path ∧
      ∀ c ∈ base, c ∈ behindAuthority cs ∨ c ∈ between := by
  refine ⟨(cs.dropWhile isSlash ++ between).dropWhile fun c => !endsAuthority true c, ?_, ?_⟩
  · rw [behindAuthority, List.append_assoc, List.dropWhile_append,
      if_neg (by simpa [List.isEmpty_iff] using hne), ← List.append_assoc,
      dropWhile_append_of_head hpath rfl]
  · intro c hc
    rw [List.dropWhile_append] at hc
    split at hc
    · exact .inr ((List.dropWhile_suffix _).subset hc)
    · exact List.mem_append.1 hc

theorem parts_of_checkScheme {u url : Url} (h : Http.checkScheme u = .ok url) :
    (u.scheme = "http" ∨ u.scheme = "https") ∧
      url.path = u.path ∧ url.query = u.query ∧ url.fragment = u.fragment := by
  unfold Http.checkScheme at h
  extract_lets told at h
  have htold : told.scheme = u.scheme ∧ told.path = u.path ∧ told.query = u.query ∧
      told.fragment = u.fragment := by
    dsimp only [told]
    split <;> exact ⟨rfl, rfl, rfl, rfl⟩
  split at h
  · next hscheme =>
      rw [← Except.ok.inj h, ← htold.1]
      exact ⟨hscheme, htold.2⟩
  · cases h

/-- The scheme of all that starts with a URL is the scheme of that URL. -/
theorem exists_splitScheme {server scheme : String} {u : Url} (hserver : parse server = .ok u)
    {more rest : List Char}
    (h : splitScheme (cleaned server.toList ++ more) = some (scheme, rest)) :
    ∃ own, splitScheme (cleaned server.toList) = some (scheme, own) ∧ rest = own ++ more := by
  rw [parse_eq] at hserver
  cases hown : splitScheme (cleaned server.toList) with
  | none =>
      rw [hown] at hserver
      cases hserver
  | some parts =>
      rw [splitScheme_append hown] at h
      cases h
      exact ⟨parts.2, rfl, rfl⟩

/-- A path put behind the URL of a server ends the path of the whole, to which nothing else belongs.
-/
theorem path_of_resolve {server path : String} {u url : Url} (hserver : parse server = .ok u)
    (hquery : u.query = none) (hfragment : u.fragment = none) (hpath : IsPlainPath path.toList)
    (h : Http.resolve server path = .ok url) :
    ∃ base, url.path = Path.ofSegments (Path.segments false isSlash (base ++ path.toList)) ∧
      url.query = none ∧ url.fragment = none := by
  unfold Http.resolve at h
  split at h
  · next whole hwhole =>
      obtain ⟨hscheme, hsame, hsameQuery, hsameFragment⟩ := parts_of_checkScheme h
      obtain ⟨scheme, rest, port, hsplit, hport, hhosted⟩ := exists_parseHosted hwhole hscheme
      obtain ⟨between, hbetween, hclean⟩ := cleaned_append hpath server.toList
      rw [String.toList_append, hclean, List.append_assoc] at hsplit
      obtain ⟨rest', hsplit', hrest⟩ := exists_splitScheme hserver hsplit
      rw [← List.append_assoc] at hrest
      rw [parse_eq, hsplit'] at hserver
      dsimp only at hserver
      rw [hport] at hserver
      obtain ⟨hne, -, hownQuery, hownFragment⟩ := parts_of_parseHosted hserver
      obtain ⟨hnoQuery, hnoFragment⟩ :=
        notMem_of_splitPath (hownQuery ▸ hquery) (hownFragment ▸ hfragment)
      obtain ⟨base, hbase, hmem⟩ := behindAuthority_append hne hpath.head between
      -- No query and no fragment starts in front of the path, neither in the server's own path nor
      -- in the edges that the server's URL ends with.
      have hkept : ∀ c, c ∉ behindAuthority rest' → isEdge c = false → c ∉ path.toList →
          c ∉ base ++ path.toList := by
        intro c hown hedge hnot hc
        rcases List.mem_append.1 hc with hc | hc
        · rcases hmem c hc with hc | hc
          · exact hown hc
          · exact absurd (hbetween c hc) (by simp [hedge])
        · exact hnot hc
      obtain ⟨-, hwholePath, hwholeQuery, hwholeFragment⟩ := parts_of_parseHosted hhosted
      rw [hrest, hbase, splitPath_of_notMem (hkept '?' hnoQuery rfl hpath.query)
        (hkept '#' hnoFragment rfl hpath.fragment)] at hwholePath hwholeQuery hwholeFragment
      exact ⟨base, hsame.trans hwholePath, hsameQuery.trans hwholeQuery,
        hsameFragment.trans hwholeFragment⟩
  · cases h

end Url
end TokenBridge
