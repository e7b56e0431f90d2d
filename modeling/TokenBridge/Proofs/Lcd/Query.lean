import TokenBridge.Lcd.Query
import TokenBridge.Proofs.Address.Cosmos
import TokenBridge.Proofs.Contract.Bridge
import TokenBridge.Proofs.Lcd.Asking
import TokenBridge.Proofs.Text.Base64
import TokenBridge.Proofs.Token
import TokenBridge.Proofs.Url.Path

set_option autoImplicit false

/-! # Questions to contracts

A contract is asked at a path that names it, and holds the text of the question in base 64. Of that
text only letters, digits and fillers are seen in the path (`readsBack_quoteQuery`), so that it
never needs to be encoded for a URL. The name of the contract is put there as it is, and stays whole
if it has no slash in it (`asked_of_tokenMetadata`).
-/

namespace TokenBridge

open Base64 (Mild Plain)

/-! ## Mild texts -/

namespace Json

/-- All characters are mild. -/
def IsMild (cs : List Char) : Prop := ∀ c ∈ cs, Mild c.toNat

instance (cs : List Char) : Decidable (IsMild cs) :=
  decidable_of_iff ((cs.all fun c => Mild c.toNat) = true)
    (List.all_eq_true.trans (forall₂_congr fun _ _ => decide_eq_true_iff))

theorem isMild_append {cs ds : List Char} : IsMild (cs ++ ds) ↔ IsMild cs ∧ IsMild ds :=
  List.forall_mem_append

theorem isMild_cons {c : Char} {cs : List Char} : IsMild (c :: cs) ↔ Mild c.toNat ∧ IsMild cs :=
  List.forall_mem_cons

theorem isMild_escape {c : Char} (h : Mild c.toNat) : IsMild (escape c) := by
  have hall : ∀ c : Char, c.toNat < 128 → Mild c.toNat → IsMild (escape c) :=
    Utf8.forall_ascii (by decide +kernel)
  exact hall c h.1 h

theorem isMild_quote {s : String} (h : IsMild s.toList) : IsMild (quote s) := by
  refine isMild_append.2 ⟨isMild_cons.2 ⟨by decide, fun d hd => ?_⟩, by decide⟩
  obtain ⟨c, hc, hd⟩ := List.mem_flatMap.1 hd
  exact isMild_escape (h c hc) d hd

theorem isMild_toDigits (n : Nat) : IsMild (Nat.toDigits 10 n) := by
  intro c hc
  have hdigit := isDigit_toDigits hc
  simp only [Char.isDigit, Bool.and_eq_true, decide_eq_true_eq] at hdigit
  have hlow : 48 ≤ c.toNat := UInt32.le_iff_toNat_le.1 hdigit.1
  have hhigh : c.toNat ≤ 57 := UInt32.le_iff_toNat_le.1 hdigit.2
  exact ⟨by omega, by omega⟩

/-- The signs that an object is put together with are mild. -/
theorem isMild_object {fields : List (String × Json)}
    (h : ∀ f ∈ fields, IsMild f.1.toList ∧ IsMild (printChars f.2)) :
    IsMild (printChars (.object fields)) := by
  have hfield : ∀ f ∈ fields, IsMild (fieldChars f.1 f.2) := fun f hf =>
    isMild_append.2 ⟨isMild_quote (h f hf).1, isMild_cons.2 ⟨by decide, (h f hf).2⟩⟩
  refine isMild_append.2 ⟨isMild_cons.2 ⟨by decide, ?_⟩, by decide⟩
  cases fields with
  | nil => exact List.forall_mem_nil _
  | cons first more =>
      obtain ⟨hfirst, hmore⟩ := List.forall_mem_cons.1 hfield
      rw [printFields_cons]
      refine isMild_append.2 ⟨hfirst, fun c hc => ?_⟩
      obtain ⟨f, hf, hc⟩ := List.mem_flatMap.1 hc
      exact isMild_cons.2 ⟨by decide, hmore f hf⟩ c hc

end Json

theorem Hex.isMild_encodeMarked (bs : Bytes) : Json.IsMild (encodeMarked bs).toList := by
  have hdigit : ∀ n < 16, Mild (digit n).toNat := by decide
  rw [toList_encodeMarked]
  refine Json.isMild_cons.2 ⟨by decide, Json.isMild_cons.2 ⟨by decide, fun c hc => ?_⟩⟩
  obtain ⟨n, hn, rfl⟩ := exists_digit_of_mem hc
  exact hdigit n hn

namespace Lcd

open Dialogue Contract

/-! ## Segments -/

/-- A mild text needs only letters, digits and fillers. -/
theorem plain_querySegment {text : String} (h : Json.IsMild text.toList) :
    ∀ c ∈ (querySegment text).toList, Plain c := by
  rw [querySegment, Base64.encode, String.toList_ofList]
  refine Base64.plain_of_mem_encodeChars fun b hb => ?_
  rw [← String.ofList_toList (s := text), Utf8.encode_ofList_of_ascii fun c hc => (h c hc).1] at hb
  obtain ⟨c, hc, rfl⟩ := List.mem_map.1 hb
  have hsmall := (h c hc).1
  rw [UInt8.toNat_ofNat', Nat.mod_eq_of_lt (by omega)]
  exact h c hc

/-- The text of a question is read back from its segment. -/
theorem decode_querySegment (text : String) :
    ∃ bytes, Base64.decode (querySegment text) = some bytes ∧ Utf8.decode bytes = .ok text :=
  ⟨_, Base64.decode_encode _, Utf8.decode_encode text⟩

/-! ## Asking -/

-- Which URL a path resolves to is looked into only where paths are read.
attribute [local irreducible] Http.resolve

section Asking

variable {server path contract text : String}

/-- One question at most is put, at that path of the server. -/
def asksAt (server path : String) : Law Request.Answer := fun h x =>
  h = [] ∧ ∃ url, x.1 = .get url ∧ Http.resolve server path = .ok url

theorem eq_of_lawful_asksAt {log : List (Exchange Request.Answer)}
    (h : Lawful (asksAt server path) log) :
    log = [] ∨ ∃ url o, log = [⟨.get url, o⟩] ∧ Http.resolve server path = .ok url := by
  cases log with
  | nil => exact .inl rfl
  | cons x rest =>
      obtain ⟨-, url, hget, hurl⟩ := h [] x rest rfl
      obtain ⟨_, o⟩ := x
      obtain rfl := hget
      cases rest with
      | nil => exact .inr ⟨url, o, rfl, hurl⟩
      | cons y rest =>
          obtain ⟨hfirst, -⟩ := h [_] y rest rfl
          cases hfirst

theorem obeys_query {α : Type} (read : Json → Except Json.Mismatch α) :
    (query server contract text read).run.Obeys (asksAt server (queryPath contract text))
      (fun _ _ => True) [] := by
  rw [query, get]
  refine obeys_bind_run.2 (obeys_adapt.2 (obeys_put ?_ (fun _ _ => trivial) ?_))
  · exact fun url o hurl => ⟨rfl, url, rfl, hurl⟩
  -- What is made of the response asks nothing more.
  intro url r _
  show Obeys _ _ (ExceptT.run _) _
  by_cases hsuccess : r.isSuccess = true
  · rw [if_neg (by simp [hsuccess])]
    refine (keeps_ofExcept_bind fun answer _ => ?_).obeys _
    cases answer.field? "data" with
    | none => exact ⟨fun _ => trivial⟩
    | some data => exact keeps_ofExcept _ _
  · rw [if_pos (by simpa using hsuccess)]
    trivial

/-- A token is asked how it is shown only if it is the text of an address. -/
theorem obeys_tokenMetadata (token : String) :
    (tokenMetadata server token).run.Obeys
      (fun h x => asksAt server (queryPath token (TokenInfoQuery.form.print ⟨⟩)) h x ∧
        ∃ d, CosmosAddress.decode token = .ok d)
      (fun _ _ => True) [] := by
  rw [tokenMetadata]
  cases hdecode : CosmosAddress.decode token with
  | error f => trivial
  | ok d =>
      show Obeys _ _ (ExceptT.run (ExceptT.adapt _ _ >>= _)) _
      refine obeys_bind_run.2 (obeys_adapt.2 ((obeys_query _).mono ?_ ?_))
      · exact fun _ _ hx => ⟨hx, d, rfl⟩
      · rintro (_ | info) _ - <;> trivial

theorem obeys_quoteToken (endpoint : Endpoint) (baseToken : Bytes) :
    (quoteToken server endpoint baseToken).run.Obeys
      (asksAt server (queryPath endpoint.contract (quoteQuery endpoint.channel baseToken)))
      (fun _ _ => True) [] := by
  rw [quoteToken]
  refine obeys_bind_run.2 (obeys_adapt.2 ((obeys_query _).mono (fun _ _ hx => hx) ?_))
  rintro (_ | predicted) _ -
  · trivial
  · exact (keeps_ofExcept _ _).obeys _

end Asking

/-! ## The counterpart of a token -/

theorem isMild_quoteQuery (channel : UInt32) (baseToken : Bytes) :
    Json.IsMild (quoteQuery channel baseToken).toList := by
  have hnames : ∀ name ∈ ["predict_wrapped_token", "path", "0", "channel", "token"],
      Json.IsMild name.toList := by decide
  simp only [List.forall_mem_cons] at hnames
  obtain ⟨hcase, hpath, hzero, hchannel, htoken, -⟩ := hnames
  rw [quoteQuery, Json.Form.print, Json.print, String.toList_ofList]
  refine Json.isMild_object (List.forall_mem_cons.2 ⟨⟨hcase, ?_⟩, List.forall_mem_nil _⟩)
  refine Json.isMild_object ?_
  simp only [List.forall_mem_cons]
  exact ⟨⟨hpath, Json.isMild_quote hzero⟩, ⟨hchannel, Json.isMild_toDigits _⟩,
    ⟨htoken, Json.isMild_quote (Hex.isMild_encodeMarked _)⟩, List.forall_mem_nil _⟩

/-- The segment holds neither of the two signs that would need to be encoded in a URL, and the
question is read back from it: the channel, the path, and digits of the base token behind their
mark. It is this segment that is put at the end of the path at which a contract is asked, at most
once. -/
structure ReadsBack (channel : UInt32) (baseToken : Bytes) (segment : String) : Prop where
  plain : ∀ c ∈ segment.toList, c.isAlphanum = true ∨ c = '='
  slash : '/' ∉ segment.toList
  plus : '+' ∉ segment.toList
  spelled : ∃ bytes text q digits, Base64.decode segment = some bytes ∧
    Utf8.decode bytes = .ok text ∧ PredictQuery.form.parse text = some q ∧ q.channel = channel ∧
    q.path = "0" ∧ q.token = "0x" ++ digits ∧ Hex.decodeText digits = .ok baseToken
  asked : ∀ server contract, (quoteToken server ⟨channel, contract⟩ baseToken).run.Obeys
    (asksAt server ("/cosmwasm/wasm/v1/contract/" ++ contract ++ "/smart/" ++ segment))
    (fun _ _ => True) []

/-- Of all messages for the counterpart of a token, none gives a sign that a URL does not take as it
stands. -/
theorem readsBack_quoteQuery (channel : UInt32) (baseToken : Bytes) :
    ReadsBack channel baseToken (querySegment (quoteQuery channel baseToken)) := by
  have hplain := plain_querySegment (isMild_quoteQuery channel baseToken)
  refine {
    plain := hplain
    slash := fun hslash => ?_
    plus := fun hplus => ?_
    spelled := ?_
    asked := fun server contract => obeys_quoteToken ⟨channel, contract⟩ baseToken }
  · exact absurd (hplain _ hslash) (by decide)
  · exact absurd (hplain _ hplus) (by decide)
  · obtain ⟨bytes, hbytes, htext⟩ := decode_querySegment (quoteQuery channel baseToken)
    exact ⟨bytes, _, .direct channel baseToken, Hex.encode baseToken, hbytes, htext,
      PredictQuery.faithful_form.lossless (by decide) _, rfl, rfl, rfl,
      Hex.decodeText_encode baseToken⟩

/-! ## The path of a question -/

open Url.Path (isOrdinary IsName isName_of_head ofSegments segments)

/-- The path of the URL ends with the segments of a question to that contract. -/
def Names (url : Url) (contract segment : String) : Prop :=
  ∃ places, url.path = ofSegments places ∧ (∀ s ∈ places, '/' ∉ s.toList) ∧
    ["cosmwasm", "wasm", "v1", "contract", contract, "smart", segment] <:+ places

theorem isOrdinary_of_plain {c : Char} (h : Plain c) : isOrdinary c = true := by
  have hall : ∀ c : Char, c.toNat < 128 → Plain c → isOrdinary c = true :=
    Utf8.forall_ascii (by decide +kernel)
  have hsmall : c.toNat < 128 := by
    rcases h with h | rfl
    · exact Utf8.ascii_of_isAlphanum h
    · decide
  exact hall c hsmall h

theorem toList_queryPath (contract text : String) :
    (queryPath contract text).toList = '/' :: ['/'].intercalate
      (["cosmwasm", "wasm", "v1", "contract", contract, "smart", querySegment text].map
        String.toList) := by
  have hfront : "/cosmwasm/wasm/v1/contract/".toList = '/' :: ['/'].intercalate
      (["cosmwasm", "wasm", "v1", "contract"].map String.toList) ++ ['/'] := by decide
  have hmiddle : "/smart/".toList = '/' :: "smart".toList ++ ['/'] := by decide
  show ("/cosmwasm/wasm/v1/contract/" ++ contract ++ "/smart/" ++ querySegment text).toList = _
  rw [String.toList_append, String.toList_append, String.toList_append, hfront, hmiddle]
  simp only [List.map_cons, List.map_nil, List.intercalate_cons_cons, List.intercalate_singleton,
    List.append_assoc, List.cons_append, List.nil_append]

section Path

variable {contract text : String}

/-- The names in the path of a question. -/
def places (contract text : String) : List String :=
  ["cosmwasm", "wasm", "v1", "contract", contract, "smart", querySegment text]

/-- A name without slashes and points is found again in every path that the question ends. -/
theorem places_suffix (hcontract : ∀ c ∈ contract.toList, isOrdinary c = true)
    (hname : IsName contract) (hplain : ∀ c ∈ (querySegment text).toList, Plain c)
    (base : List Char) :
    places contract text <:+ segments false Url.isSlash (base ++ (queryPath contract text).toList) := by
  have hfixed : ∀ s ∈ ["cosmwasm", "wasm", "v1", "contract", "smart"],
      s.toList.all isOrdinary = true ∧ Url.Path.isPoint s = false ∧
        Url.Path.isTwoPoints s = false := by decide +kernel
  have hsegment : IsName (querySegment text) := by
    refine isName_of_head (fun hhead => ?_) fun hhead => ?_
    · exact absurd (hplain _ (List.mem_of_mem_head? hhead)) (by decide)
    · exact absurd (hplain _ (List.mem_of_mem_head? hhead)) (by decide)
  have hall : ∀ s ∈ places contract text, (∀ c ∈ s.toList, isOrdinary c = true) ∧ IsName s := by
    simp only [List.forall_mem_cons, List.all_eq_true] at hfixed
    obtain ⟨hcosmwasm, hwasm, hv1, hcontract', hsmart, -⟩ := hfixed
    simp only [places, List.forall_mem_cons]
    exact ⟨hcosmwasm, hwasm, hv1, hcontract', ⟨hcontract, hname⟩, hsmart,
      ⟨fun c hc => isOrdinary_of_plain (hplain c hc), hsegment⟩, List.forall_mem_nil _⟩
  rw [toList_queryPath]
  exact Url.Path.names_suffix (List.cons_ne_nil _ _) (fun s hs => (hall s hs).1)
    (fun s hs => (hall s hs).2) base

theorem isEdge_of_isOrdinary {c : Char} (h : isOrdinary c = true) : Url.isEdge c = false := by
  have hall : ∀ c : Char, c.toNat < 128 → isOrdinary c = true → Url.isEdge c = false :=
    Utf8.forall_ascii (by decide +kernel)
  have hparts := h
  simp only [isOrdinary, Bool.and_eq_true, decide_eq_true_eq] at hparts
  exact hall c hparts.1.1.1 h

/-- The path of a question can be put behind the URL of a server, also where the name of the
contract has slashes in it. -/
theorem isPlainPath_queryPath (hcontract : ∀ c ∈ contract.toList, c = '/' ∨ isOrdinary c = true)
    (hplain : ∀ c ∈ (querySegment text).toList, Plain c) :
    Url.IsPlainPath (queryPath contract text).toList := by
  have hfixed : ∀ s ∈ ["/cosmwasm/wasm/v1/contract/", "/smart/"],
      (s.toList.all fun c => c = '/' ∨ isOrdinary c = true) = true := by decide +kernel
  have hall : ∀ c ∈ (queryPath contract text).toList, c = '/' ∨ isOrdinary c = true := by
    simp only [List.forall_mem_cons, List.all_eq_true, decide_eq_true_eq] at hfixed
    obtain ⟨hfront, hmiddle, -⟩ := hfixed
    show ∀ c ∈ ("/cosmwasm/wasm/v1/contract/" ++ contract ++ "/smart/" ++
      querySegment text).toList, _
    rw [String.toList_append, String.toList_append, String.toList_append]
    simp only [List.forall_mem_append]
    exact ⟨⟨⟨hfront, hcontract⟩, hmiddle⟩, fun c hc => .inr (isOrdinary_of_plain (hplain c hc))⟩
  refine ⟨?_, fun c hc => ?_, fun h => ?_, fun h => ?_⟩
  · rw [toList_queryPath]
    rfl
  · rcases hall c hc with rfl | hc
    · rfl
    · exact isEdge_of_isOrdinary hc
  · exact absurd (hall _ h) (by decide)
  · exact absurd (hall _ h) (by decide)

end Path

end Lcd

/-! ## Tokens -/

/-- A denomination starts with a letter, and all of its characters are of those that it may hold. -/
theorem Denom.isDenomChar_of_validate {token : String} (h : Denom.validate token = .ok ()) :
    (∃ c ∈ token.toList.head?, c.isAlpha = true) ∧ ∀ c ∈ token.toList, isDenomChar c = true := by
  obtain ⟨first, rest, htoken, hletter, -, -, hrest⟩ := validate_eq_ok_iff.1 h
  rw [htoken]
  exact ⟨⟨first, rfl, hletter⟩,
    List.forall_mem_cons.2 ⟨isDenomChar_of_isAlpha hletter, hrest⟩⟩

theorem CosmosAddress.slash_mem_hrp {token : String} {d : Decoded} (h : decode token = .ok d) :
    '/' ∈ d.hrp.toList ↔ '/' ∈ token.toList := by
  obtain ⟨b, hb, -, hhrp⟩ := decode_eq_ok h
  obtain ⟨readable, data, checksum, hspelled⟩ := Bech32.exists_spelled hb
  have hdata : '/' ∉ data := by
    intro hslash
    obtain ⟨x, -, hx⟩ := Outcome.exists_of_mem_left hspelled.symbols hslash
    have hnone : Bech32.symbol? '/' = none := by decide
    cases hnone.symm.trans hx
  have hlower : '/' ∈ readable.map Char.toLower ↔ '/' ∈ readable := by
    constructor
    · intro hslash
      obtain ⟨c, hc, hsame⟩ := List.mem_map.1 hslash
      have hall : ∀ c : Char, c.toNat < 128 → c.toLower = '/' → c = '/' :=
        Utf8.forall_ascii (by decide +kernel)
      have hsmall : c.toNat < 128 := Hex.toNat_lt_of_toLower (hsame ▸ by decide)
      exact hall c hsmall hsame ▸ hc
    · exact fun hslash => List.mem_map.2 ⟨'/', hslash, by decide⟩
  rw [← hhrp, hspelled.hrp, String.toList_ofList, hlower,
    Bech32.eq_append_of_splitLast hspelled.split, List.mem_append, List.mem_cons]
  simp [hdata]

namespace Lcd

open Dialogue Contract

open Url.Path (isOrdinary IsName isName_of_head ofSegments segments)

/-- What a token of a Cosmos chain is made of. A slash is all in it that could cut a path. -/
structure IsToken (token : String) : Prop where
  name : IsName token
  chars : ∀ c ∈ token.toList, c = '/' ∨ isOrdinary c = true
  marks : '?' ∉ token.toList ∧ '#' ∉ token.toList ∧ '%' ∉ token.toList

theorem isToken_of_canonical {token : String} {bs : Bytes}
    (h : Token.canonical .cosmos token = .ok bs) : IsToken token := by
  obtain ⟨⟨⟩, hvalid, -⟩ := Outcome.map_eq_ok.1 (Outcome.mapError_eq_ok.1 h)
  obtain ⟨⟨first, hfirst, hletter⟩, hchars⟩ := Denom.isDenomChar_of_validate hvalid
  have hall : ∀ c : Char, c.toNat < 128 → Denom.isDenomChar c = true →
      c = '/' ∨ isOrdinary c = true := Utf8.forall_ascii (by decide +kernel)
  -- A token starts with a letter, and no way of writing points does.
  refine ⟨isName_of_head ?_ ?_, fun c hc => ?_, ?_, ?_, ?_⟩
  · rw [hfirst]
    rintro ⟨⟩
    cases hletter
  · rw [hfirst]
    rintro ⟨⟩
    cases hletter
  · exact hall c (Denom.ascii_of_isDenomChar (hchars c hc)) (hchars c hc)
  · exact fun h => absurd (hchars _ h) (by decide)
  · exact fun h => absurd (hchars _ h) (by decide)
  · exact fun h => absurd (hchars _ h) (by decide)

/-- Behind the URL of a server, the path of a question names the contract if there is no slash in
its name, and only then. -/
theorem names_iff {server contract text : String} {u url : Url} (hserver : Url.parse server = .ok u)
    (hquery : u.query = none) (hfragment : u.fragment = none) (hcontract : IsToken contract)
    (hplain : ∀ c ∈ (querySegment text).toList, Plain c)
    (hurl : Http.resolve server (queryPath contract text) = .ok url) :
    url.query = none ∧ url.fragment = none ∧
      (Names url contract (querySegment text) ↔ '/' ∉ contract.toList) := by
  obtain ⟨base, hpath, hnoQuery, hnoFragment⟩ := Url.path_of_resolve hserver hquery hfragment
    (isPlainPath_queryPath hcontract.chars hplain) hurl
  refine ⟨hnoQuery, hnoFragment, ?_, fun hslash => ?_⟩
  · rintro ⟨found, -, hfound, hsuffix⟩
    exact hfound contract (hsuffix.subset (by simp))
  · refine ⟨_, hpath, fun s hs => Url.Path.slash_notMem_of_mem_segments hs, ?_⟩
    refine places_suffix (fun c hc => ?_) hcontract.name hplain base
    rcases hcontract.chars c hc with rfl | hc'
    · exact absurd hc hslash
    · exact hc'

theorem isMild_tokenInfoQuery : Json.IsMild (TokenInfoQuery.form.print ⟨⟩).toList := by
  decide +kernel

/-- How a token is shown is asked at most once, and only of a token that is an address. No mark in
it starts a query or a fragment or encodes another character, but slashes in its readable part are
left as they are. So the path names the token if there are none, and only then. -/
theorem asked_of_tokenMetadata {server token : String} {bs : Bytes}
    (hcanonical : Token.canonical .cosmos token = .ok bs) {log : List (Exchange Request.Answer)}
    {rest : Dialogue Request.Answer (Except Report TokenMetadata)}
    (hleads : (tokenMetadata server token).run.Leads log rest) (hasked : log ≠ []) :
    ∃ d url o, CosmosAddress.decode token = .ok d ∧ log = [⟨.get url, o⟩] ∧
      Http.resolve server ("/cosmwasm/wasm/v1/contract/" ++ token ++ "/smart/" ++
        querySegment (TokenInfoQuery.form.print ⟨⟩)) = .ok url ∧
      ('?' ∉ token.toList ∧ '#' ∉ token.toList ∧ '%' ∉ token.toList) ∧
      ('/' ∈ token.toList ↔ '/' ∈ d.hrp.toList) ∧
      ∀ u, Url.parse server = .ok u → u.query = none → u.fragment = none →
        url.query = none ∧ url.fragment = none ∧
          (Names url token (querySegment (TokenInfoQuery.form.print ⟨⟩)) ↔ '/' ∉ token.toList) := by
  have htoken := isToken_of_canonical hcanonical
  obtain ⟨hlawful, -⟩ := (obeys_tokenMetadata token).leads hleads (lawful_nil _)
  rw [List.nil_append] at hlawful
  obtain ⟨d, hdecode⟩ : ∃ d, CosmosAddress.decode token = .ok d := by
    cases log with
    | nil => exact absurd rfl hasked
    | cons x log => exact (hlawful [] x log rfl).2
  rcases eq_of_lawful_asksAt (hlawful.mono fun _ _ hx => hx.1) with hnone | ⟨url, o, hlog, hurl⟩
  · exact absurd hnone hasked
  · refine ⟨d, url, o, hdecode, hlog, hurl, htoken.marks, (CosmosAddress.slash_mem_hrp hdecode).symm,
      fun u hserver hquery hfragment => ?_⟩
    exact names_iff hserver hquery hfragment htoken (plain_querySegment isMild_tokenInfoQuery) hurl

/-- Every token that is an address is asked, if a server can be asked at all. -/
theorem leads_tokenMetadata {server token : String} {d : CosmosAddress.Decoded} {url : Url}
    (hdecode : CosmosAddress.decode token = .ok d)
    (hurl : Http.resolve server (queryPath token (TokenInfoQuery.form.print ⟨⟩)) = .ok url)
    (o : Http.Outcome) :
    ∃ rest, (tokenMetadata server token).run.Leads [⟨.get url, o⟩] rest := by
  obtain ⟨next, hnext⟩ : ∃ next, (tokenMetadata server token).run = .ask (.get url) next := by
    rw [tokenMetadata, hdecode, query, get, put, hurl]
    exact ⟨_, rfl⟩
  rw [hnext]
  exact ⟨next o, .ask (Request.get url) next o (.refl _)⟩

/-! ## Samples

An account without a slash in its readable part, and one with a slash, on a server without a name.
-/

def sampleServer : String := "http://[::1]:1317"

def sampleHome : Url := ⟨"http", ⟨"", none⟩, some "[::1]", some 1317, "/", none, none⟩

/-- What is asked there for a token. -/
def sampleUrl (token : String) : Url :=
  { sampleHome with
    path := "/cosmwasm/wasm/v1/contract/" ++ token ++ "/smart/eyJ0b2tlbl9pbmZvIjp7fX0=" }

def sampleSlashed : String := "a/b1qypqxpq9qcrsszg2pvxq6rs0zqg3yyc5x75mc3"

theorem parse_sampleServer : Url.parse sampleServer = .ok sampleHome := by
  decide +kernel

theorem resolve_sampleServer : ∀ token ∈ [CosmosAddress.sampleLower, sampleSlashed],
    Http.resolve sampleServer (queryPath token (TokenInfoQuery.form.print ⟨⟩)) =
      .ok (sampleUrl token) := by
  decide +kernel

theorem decode_sampleSlashed :
    CosmosAddress.decode sampleSlashed = .ok ⟨CosmosAddress.sampleAccount.payload, "a/b"⟩ := by
  decide +kernel

theorem canonical_sample : ∀ token ∈ [CosmosAddress.sampleLower, sampleSlashed],
    Token.canonical .cosmos token = .ok (Utf8.encode token) := by
  decide +kernel

theorem asked_of_sampleLower :
    ∃ log rest, (tokenMetadata sampleServer CosmosAddress.sampleLower).run.Leads log rest ∧
      ∃ url o, log = [⟨.get url, o⟩] ∧
        Names url CosmosAddress.sampleLower (querySegment (TokenInfoQuery.form.print ⟨⟩)) := by
  obtain ⟨rest, hleads⟩ := leads_tokenMetadata CosmosAddress.decode_sampleLower
    (resolve_sampleServer _ (by simp)) .refused
  obtain ⟨d, url, o, -, hlog, -, -, -, hnames⟩ := asked_of_tokenMetadata
    (canonical_sample CosmosAddress.sampleLower (by simp)) hleads (List.cons_ne_nil _ _)
  obtain ⟨-, -, hnames⟩ := hnames sampleHome parse_sampleServer rfl rfl
  exact ⟨_, rest, hleads, url, o, hlog, hnames.2 (by decide)⟩

/-- A token with a slash is asked as well, at a path that does not name it. -/
theorem not_forall_names : ¬ ∀ (server token : String) (u : Url) (bs : Bytes)
    (log : List (Exchange Request.Answer))
    (rest : Dialogue Request.Answer (Except Report TokenMetadata)),
    Url.parse server = .ok u → u.query = none → u.fragment = none →
    Token.canonical .cosmos token = .ok bs → (tokenMetadata server token).run.Leads log rest →
    log ≠ [] →
    (∀ mark ∈ ['/', '?', '#', '%'], mark ∉ token.toList) ∧ ∃ url o, log = [⟨.get url, o⟩] ∧
      Names url token (querySegment (TokenInfoQuery.form.print ⟨⟩)) := by
  intro h
  obtain ⟨rest, hleads⟩ := leads_tokenMetadata decode_sampleSlashed
    (resolve_sampleServer _ (by simp)) .refused
  obtain ⟨hmarks, -⟩ := h sampleServer sampleSlashed sampleHome _ _ rest parse_sampleServer rfl rfl
    (canonical_sample sampleSlashed (by simp)) hleads (List.cons_ne_nil _ _)
  exact absurd (by decide) (hmarks '/' (List.mem_cons_self ..))

end Lcd
end TokenBridge
