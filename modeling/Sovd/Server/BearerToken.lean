import Sovd.Json.RoundTrip
import Sovd.Lib.Base64
import Sovd.Server.Oauth2

/-!
# The tokens the server mints and those it accepts (`server/src/oauth2.cpp`)

`verifyToken` accepts a token by comparing the signature it carries, as text, with the
text of the one it should carry. So of the tokens over one signing input at most one is
accepted, and an accepted token is put together as `mintToken` puts one together
(`Genuine`).

The other way around, a minted token is accepted until it expires, and says what was put
in. That is two round trips: the claims are written as JSON and read back
(`parseJson_text`), and the texts are written as base64 and read back
(`Base64.decode_encode`). Between the two lies what the server does to get from the
standard form, which is what OpenSSL has, to the one for URLs.

Mirroring notes vs the C++:
- OpenSSL is told lengths as `int`. What is assumed of it (`OpenSsl.IsBase64`) is assumed
  of the calls as they are made.
- `mintToken` throws where a scope is not UTF-8, as `dump` does.
-/

namespace Sovd

/-- The two block functions are those of standard base64. A block is decoded with the
zeros that the padding stands for. -/
structure OpenSsl.IsBase64 (ssl : OpenSsl) : Prop where
  encode : ∀ data, ssl.encodeBlock data = Base64.encode data
  decode : ∀ data, ssl.decodeBlock (Base64.encode data) =
    some (data ++ List.replicate (Base64.padding data.length) 0)

namespace Oauth2

/-- The header that `mint_token` writes. -/
def mintHeader : Json := .obj [(str "alg", .str (str "HS256")), (str "typ", .str (str "JWT"))]

/-- The payload that `mint_token` writes. -/
def mintPayload (scopes : List Bytes) (exp : Int) : Json :=
  .obj [(str "scopes", .arr (scopes.map .str)), (str "exp", .int exp)]

/-- `mint_token` -/
def mintToken (ssl : OpenSsl) (grisu2 : Rat → Bytes × Int) (now : Int) (secret : Bytes)
    (scopes : List Bytes) (ttl : Int) : Except Exn Bytes := do
  let header ← mintHeader.dump
  let payload ← (mintPayload scopes (now + ttl)).dump
  let signingInput := base64urlEncode ssl (header.stored.text grisu2) ++ [46] ++
    base64urlEncode ssl (payload.stored.text grisu2)
  return signingInput ++ [46] ++ base64urlEncode ssl (ssl.hmacSha256 secret signingInput)

/-! ## The form for URLs -/

section

variable {ssl : OpenSsl}

/-- The two replacements and the padding make base64url of base64. -/
theorem base64urlEncode_eq (hssl : ssl.IsBase64) (data : Bytes) :
    base64urlEncode ssl data = Base64.encodeUrl data := by
  rw [base64urlEncode, hssl.encode]
  exact Base64.dropWhile_reverse_toUrl data

/-- What is encoded so is decoded again. -/
theorem base64urlDecode_encodeUrl (hssl : ssl.IsBase64) {data : Bytes} (hdata : data ≠ []) :
    base64urlDecode ssl (Base64.encodeUrl data) = some data := by
  have hpadded : (Base64.encodeUrl data).map Base64.ofUrl ++ List.replicate
      ((4 - ((Base64.encodeUrl data).map Base64.ofUrl).length % 4) % 4) 61 =
      Base64.encode data := by
    rw [List.length_map, Base64.encode_eq]
  have hnonempty : Base64.encode data ≠ [] := fun h =>
    hdata (Base64.digits_eq_nil (List.map_eq_nil_iff.mp (List.append_eq_nil_iff.mp h).1))
  have htranslated : (Base64.encodeUrl data).map
      (fun c => if c = 45 then 43 else if c = 95 then 47 else c) =
      (Base64.encodeUrl data).map Base64.ofUrl := rfl
  rw [base64urlDecode]
  dsimp only
  rw [htranslated, hpadded, if_neg hnonempty, Base64.takeWhile_reverse_encode, hssl.decode]
  simp

/-! ## The parts -/

/-- The first dot splits a token. -/
theorem splitDot_eq_some {s before after : Bytes} :
    splitDot s = some (before, after) ↔ s = before ++ 46 :: after ∧ (46 : UInt8) ∉ before := by
  constructor
  · intro h
    have hsplit := List.takeWhile_append_dropWhile (p := (· != 46)) (l := s)
    unfold splitDot at h
    cases hdrop : s.dropWhile (· != 46) with
    | nil =>
      rw [hdrop] at h
      cases h
    | cons dot rest =>
      rw [hdrop] at h hsplit
      obtain ⟨rfl, rfl⟩ := Prod.mk.inj (Option.some.inj h)
      have hdot := List.head_dropWhile_not (p := (· != 46)) (l := s) (by simp [hdrop])
      have hdot : dot = 46 := by simpa [hdrop] using hdot
      refine ⟨?_, fun hmem => ?_⟩
      · rw [hdot] at hsplit
        exact hsplit.symm
      · simpa using List.mem_takeWhile_imp hmem
  · rintro ⟨rfl, hbefore⟩
    have hpass : ∀ c ∈ before, (c != 46) = true := by
      intro c hc
      simpa using fun h : c = 46 => hbefore (h ▸ hc)
    rw [splitDot, List.dropWhile_append_of_pos hpass, List.takeWhile_append_of_pos hpass]
    simp

end

/-- A text ends in one way with a dot and something without one. -/
theorem lastDot_unique {a a' b b' : Bytes} (h : a ++ [46] ++ b = a' ++ [46] ++ b')
    (hb : (46 : UInt8) ∉ b) (hb' : (46 : UInt8) ∉ b') : a = a' ∧ b = b' := by
  have hrev : b.reverse ++ 46 :: a.reverse = b'.reverse ++ 46 :: a'.reverse := by
    simpa using congrArg List.reverse h
  have hsplit : splitDot (b.reverse ++ 46 :: a.reverse) = some (b.reverse, a.reverse) :=
    splitDot_eq_some.mpr ⟨rfl, fun hmem => hb (List.mem_reverse.mp hmem)⟩
  have hsplit' : splitDot (b'.reverse ++ 46 :: a'.reverse) = some (b'.reverse, a'.reverse) :=
    splitDot_eq_some.mpr ⟨rfl, fun hmem => hb' (List.mem_reverse.mp hmem)⟩
  rw [hrev, hsplit'] at hsplit
  obtain ⟨hafter, hbefore⟩ := Prod.mk.inj (Option.some.inj hsplit)
  exact ⟨List.reverse_injective hbefore.symm, List.reverse_injective hafter.symm⟩

/-- The three texts of a token. -/
structure TokenParts where
  header : Bytes
  payload : Bytes
  sig : Bytes

/-- What is signed. -/
def TokenParts.signingInput (t : TokenParts) : Bytes := t.header ++ [46] ++ t.payload

/-- The text of a token. -/
def TokenParts.text (t : TokenParts) : Bytes := t.signingInput ++ [46] ++ t.sig

/-- The texts are those of a token under the secret that grants the scopes and has not
expired. -/
structure Genuine (ssl : OpenSsl) (secret : Bytes) (now : Int) (t : TokenParts)
    (scopes : List Bytes) : Prop where
  noDot : (46 : UInt8) ∉ t.header ∧ (46 : UInt8) ∉ t.payload ∧ (46 : UInt8) ∉ t.sig
  sig_eq : t.sig = Base64.encodeUrl (ssl.hmacSha256 secret t.signingInput)
  header : ∃ text members, base64urlDecode ssl t.header = some text ∧
    parseJson text = some (.obj members) ∧
    (Json.obj members).get? (str "alg") = some (.str (str "HS256"))
  payload : ∃ text members exp items, base64urlDecode ssl t.payload = some text ∧
    parseJson text = some (.obj members) ∧
    (Json.obj members).get? (str "exp") = some (.int exp) ∧ now < exp ∧
    (Json.obj members).get? (str "scopes") = some (.arr items) ∧
    scopes = items.filterMap Json.getString?

/-- Only an object has members. -/
theorem exists_members {j v : Json} {key : Bytes} (h : j.get? key = some v) :
    ∃ members, j = .obj members := by
  cases j with
  | obj members => exact ⟨members, rfl⟩
  | _ => cases h

section

variable {ssl : OpenSsl} {now : Int} {token secret : Bytes} {claims : TokenClaims}

/-- A number that does not fit becomes a smaller one. -/
theorem getLong_le (i : Int) : getLong i ≤ i := by
  unfold getLong
  split_ifs <;> omega

/-- What an accepted token has gone through, in the order of the checks. -/
theorem verifyToken_cases (h : verifyToken ssl parseJson now token secret = some claims) :
    ∃ header rest payload sig headerJson payloadJson exp items,
      splitDot token = some (header, rest) ∧ splitDot rest = some (payload, sig) ∧
      sig = base64urlEncode ssl (ssl.hmacSha256 secret (header ++ [46] ++ payload)) ∧
      (base64urlDecode ssl header).bind parseJson = some headerJson ∧
      (headerJson.get? (str "alg")).bind Json.getString? = some (str "HS256") ∧
      (base64urlDecode ssl payload).bind parseJson = some payloadJson ∧
      payloadJson.get? (str "exp") = some (.int exp) ∧
      payloadJson.get? (str "scopes") = some (.arr items) ∧
      now < getLong exp ∧ claims = ⟨stringItems items, getLong exp⟩ := by
  unfold verifyToken at h
  split at h
  next => cases h
  next header rest hfirst =>
    split at h
    next => cases h
    next payload sig hsecond =>
      dsimp only at h
      split_ifs at h with hsig
      split at h
      next => cases h
      next headerJson hheader =>
        split_ifs at h with halg
        split at h
        next => cases h
        next payloadJson hpayload =>
          split at h
          next exp items hexp hitems =>
            split_ifs at h with hexpired
            exact ⟨header, rest, payload, sig, headerJson, payloadJson, exp, items, hfirst,
              hsecond, not_not.mp hsig, hheader, not_not.mp halg, hpayload, hexp, hitems,
              not_le.mp hexpired, (Option.some.inj h).symm⟩
          next => cases h

/-- A text cut at its first two dots. -/
theorem text_of_splitDot {header rest payload sig : Bytes}
    (hfirst : splitDot token = some (header, rest))
    (hsecond : splitDot rest = some (payload, sig)) :
    token = TokenParts.text ⟨header, payload, sig⟩ ∧
      (46 : UInt8) ∉ header ∧ (46 : UInt8) ∉ payload := by
  obtain ⟨rfl, hheader⟩ := splitDot_eq_some.mp hfirst
  obtain ⟨rfl, hpayload⟩ := splitDot_eq_some.mp hsecond
  exact ⟨by simp [TokenParts.text, TokenParts.signingInput], hheader, hpayload⟩

/-- A part of a token that has a member decodes to an object. -/
theorem decoded_object {part key : Bytes} {j v : Json}
    (hpart : (base64urlDecode ssl part).bind parseJson = some j) (hget : j.get? key = some v) :
    ∃ text members, base64urlDecode ssl part = some text ∧
      parseJson text = some (.obj members) ∧ j = .obj members := by
  obtain ⟨text, htext, hjson⟩ := Option.bind_eq_some_iff.mp hpart
  obtain ⟨members, rfl⟩ := exists_members hget
  exact ⟨text, members, htext, hjson, rfl⟩

/-- An accepted token is genuine. -/
theorem verifyToken_eq_some (hssl : ssl.IsBase64)
    (h : verifyToken ssl parseJson now token secret = some claims) :
    ∃ t : TokenParts, token = t.text ∧ Genuine ssl secret now t claims.scopes := by
  obtain ⟨header, rest, payload, sig, headerJson, payloadJson, exp, items, hfirst, hsecond,
    hsig, hheader, halg, hpayload, hexp, hitems, hnow, rfl⟩ := verifyToken_cases h
  obtain ⟨htoken, hdot, hdot'⟩ := text_of_splitDot hfirst hsecond
  rw [base64urlEncode_eq hssl] at hsig
  obtain ⟨alg, hget, halg⟩ := Option.bind_eq_some_iff.mp halg
  obtain ⟨text, members, htext, hjson, rfl⟩ := decoded_object hheader hget
  obtain ⟨text', members', htext', hjson', rfl⟩ := decoded_object hpayload hexp
  have hlater : now < exp := lt_of_lt_of_le hnow (getLong_le exp)
  refine ⟨⟨header, payload, sig⟩, htoken, ⟨hdot, hdot', ?_⟩, hsig,
    ⟨text, members, htext, hjson, ?_⟩,
    ⟨text', members', exp, items, htext', hjson', hexp, hlater, hitems, rfl⟩⟩
  · intro hmem
    change (46 : UInt8) ∈ sig at hmem
    rw [hsig] at hmem
    exact (Base64.encodeUrl_mem hmem).1 rfl
  · rw [hget]
    cases alg with
    | str s => simpa [Json.getString?] using halg
    | _ => cases halg

/-- Over one signing input at most one text is accepted. -/
theorem verifyToken_unique {now' : Int} {token' : Bytes} {claims' : TokenClaims}
    {signingInput sig sig' : Bytes} (hssl : ssl.IsBase64)
    (h : verifyToken ssl parseJson now token secret = some claims)
    (h' : verifyToken ssl parseJson now' token' secret = some claims')
    (htoken : token = signingInput ++ [46] ++ sig) (hsig : (46 : UInt8) ∉ sig)
    (htoken' : token' = signingInput ++ [46] ++ sig') (hsig' : (46 : UInt8) ∉ sig') :
    token = token' := by
  obtain ⟨t, rfl, ht⟩ := verifyToken_eq_some hssl h
  obtain ⟨t', rfl, ht'⟩ := verifyToken_eq_some hssl h'
  -- the signature is what comes after the last dot
  obtain ⟨hinput, rfl⟩ := lastDot_unique htoken ht.noDot.2.2 hsig
  obtain ⟨hinput', rfl⟩ := lastDot_unique htoken' ht'.noDot.2.2 hsig'
  rw [TokenParts.text, TokenParts.text, ht.sig_eq, ht'.sig_eq, hinput, hinput']

/-! ## A minted token -/

end

section

open Json

variable (grisu2 : Rat → Bytes × Int)

/-- Texts are stored as they are. -/
theorem storedItems_str (scopes : List Bytes) :
    storedItems (scopes.map .str) = scopes.map .str := by
  induction scopes with
  | nil => rfl
  | cons s scopes ih =>
    rw [List.map_cons, storedItems, ih]
    rfl

/-- The claims as the library holds them: the keys are in order. -/
theorem stored_mintPayload (scopes : List Bytes) (exp : Int) :
    (mintPayload scopes exp).stored =
      .obj [(str "exp", .int exp), (str "scopes", .arr (scopes.map .str))] := by
  have hkeys : str "exp" < str "scopes" := by decide
  have hput : SortedTable.put (str "exp") (.int exp)
      [(str "scopes", Json.arr (scopes.map .str))] =
      [(str "exp", .int exp), (str "scopes", .arr (scopes.map .str))] := if_pos hkeys
  calc (mintPayload scopes exp).stored
      = .obj (SortedTable.put (str "exp") (.int exp)
          [(str "scopes", .arr (storedItems (scopes.map .str)))]) := rfl
    _ = _ := by rw [storedItems_str, hput]

/-- Texts can be sent if they are UTF-8. -/
theorem sendableItems_str {scopes : List Bytes} (h : ∀ s ∈ scopes, Utf8.valid s = true) :
    SendableItems (scopes.map .str) := by
  induction scopes with
  | nil =>
    rw [List.map_nil, SendableItems]
    trivial
  | cons s scopes ih =>
    obtain ⟨hs, hscopes⟩ := List.forall_mem_cons.mp h
    rw [List.map_cons, SendableItems]
    exact ⟨hs, ih hscopes⟩

theorem finiteItems_str (scopes : List Bytes) : FiniteItems (scopes.map .str) := by
  induction scopes with
  | nil =>
    rw [List.map_nil, FiniteItems]
    trivial
  | cons s scopes ih =>
    rw [List.map_cons, FiniteItems]
    exact ⟨trivial, ih⟩

/-- There is no number with a fraction, so nothing depends on how one is written. -/
theorem textItems_str (scopes : List Bytes) :
    textItems grisu2 (scopes.map .str) = textItems allDigits (scopes.map .str) := by
  induction scopes with
  | nil => rfl
  | cons s scopes ih =>
    rw [List.map_cons, textItems, textItems, ih]
    rfl

/-- The payload has no floats, so its text does not depend on how they are written. -/
theorem text_mintPayload (scopes : List Bytes) (exp : Int) :
    (mintPayload scopes exp).stored.text grisu2 =
      (mintPayload scopes exp).stored.text allDigits := by
  rw [stored_mintPayload]
  cases scopes with
  | nil => rfl
  | cons s scopes =>
    show 123 :: (dumpString _ ++ 58 :: (intText exp ++ 44 :: (dumpString _ ++ 58 ::
      (91 :: (dumpString s ++ textItems grisu2 (scopes.map .str)) ++ [125])))) = _
    rw [textItems_str]
    rfl

/-- The claims are read back. -/
theorem parseJson_mintPayload {scopes : List Bytes} {exp : Int}
    (hscopes : ∀ s ∈ scopes, Utf8.valid s = true) (hlo : -2 ^ 63 ≤ exp) (hhi : exp < 2 ^ 63) :
    parseJson ((mintPayload scopes exp).stored.text grisu2) =
      some (.obj [(str "exp", .int exp), (str "scopes", .arr (scopes.map .str))]) := by
  have hkeys : str "exp" < str "scopes" ∧ Utf8.valid (str "exp") = true ∧
      Utf8.valid (str "scopes") = true := by decide
  have hsendable : (mintPayload scopes exp).stored.Sendable := by
    rw [stored_mintPayload, Sendable]
    refine ⟨List.pairwise_pair.mpr hkeys.1, ?_⟩
    rw [SendableMembers, SendableMembers, SendableMembers, Sendable, Sendable]
    exact ⟨hkeys.2.1, ⟨hlo, by omega⟩, hkeys.2.2, sendableItems_str hscopes, trivial⟩
  have hfinite : (mintPayload scopes exp).stored.Finite := by
    rw [stored_mintPayload, Json.Finite, FiniteMembers, FiniteMembers, FiniteMembers]
    exact ⟨trivial, finiteItems_str scopes, trivial⟩
  rw [text_mintPayload, parseJson_text allDigits_correct hsendable, received_of_finite _ hfinite,
    stored_mintPayload]

/-- The header is read back. -/
theorem parseJson_mintHeader :
    parseJson (mintHeader.stored.text grisu2) = some mintHeader := rfl

end

section

variable {ssl : OpenSsl} {now : Int} {secret : Bytes}

/-- A document that is written for URLs is read back. -/
theorem parse_encodeUrl (hssl : ssl.IsBase64) {text : Bytes} {j : Json}
    (h : parseJson text = some j) :
    (base64urlDecode ssl (Base64.encodeUrl text)).bind parseJson = some j := by
  have htext : text ≠ [] := by
    rintro rfl
    cases h
  rw [base64urlDecode_encodeUrl hssl htext, Option.bind_some, h]

/-- A token is accepted whose parts are in order. -/
theorem verifyToken_text (hssl : ssl.IsBase64) {t : TokenParts} {header payload : Json}
    {exp : Int} {items : List Json} (hheader : (46 : UInt8) ∉ t.header)
    (hpayload : (46 : UInt8) ∉ t.payload)
    (hsig : t.sig = Base64.encodeUrl (ssl.hmacSha256 secret t.signingInput))
    (hparsed : (base64urlDecode ssl t.header).bind parseJson = some header)
    (halg : header.get? (str "alg") = some (.str (str "HS256")))
    (hparsed' : (base64urlDecode ssl t.payload).bind parseJson = some payload)
    (hexp : payload.get? (str "exp") = some (.int exp))
    (hitems : payload.get? (str "scopes") = some (.arr items)) (hnow : now < getLong exp) :
    verifyToken ssl parseJson now t.text secret = some ⟨stringItems items, getLong exp⟩ := by
  have htext : t.text = t.header ++ 46 :: (t.payload ++ 46 :: t.sig) := by
    simp [TokenParts.text, TokenParts.signingInput]
  have hcheck : ¬ t.sig ≠ base64urlEncode ssl (ssl.hmacSha256 secret
      (t.header ++ [46] ++ t.payload)) := by
    rw [base64urlEncode_eq hssl]
    exact not_not.mpr hsig
  have hbind : ¬ (header.get? (str "alg")).bind Json.getString? ≠ some (str "HS256") := by
    rw [halg]
    exact not_not.mpr rfl
  rw [verifyToken, htext, splitDot_eq_some.mpr ⟨rfl, hheader⟩]
  dsimp only
  rw [splitDot_eq_some.mpr ⟨rfl, hpayload⟩]
  dsimp only
  rw [if_neg hcheck, hparsed]
  dsimp only
  rw [if_neg hbind, hparsed']
  dsimp only
  rw [hexp, hitems]
  dsimp only
  rw [if_neg (not_le.mpr hnow)]

/-- The scopes are read back. -/
theorem stringItems_str (scopes : List Bytes) : stringItems (scopes.map .str) = scopes := by
  rw [stringItems, List.filterMap_map]
  exact List.filterMap_some

/-- The parts of the token that is minted. -/
def minted (ssl : OpenSsl) (grisu2 : Rat → Bytes × Int) (secret : Bytes) (scopes : List Bytes)
    (exp : Int) : TokenParts :=
  let header := Base64.encodeUrl (mintHeader.stored.text grisu2)
  let payload := Base64.encodeUrl ((mintPayload scopes exp).stored.text grisu2)
  ⟨header, payload, Base64.encodeUrl (ssl.hmacSha256 secret (header ++ [46] ++ payload))⟩

/-- The payload can be written if the scopes can. -/
theorem mintPayload_utf8 {scopes : List Bytes} (exp : Int)
    (h : ∀ s ∈ scopes, Utf8.valid s = true) : (mintPayload scopes exp).utf8 = true := by
  have hkeys : Utf8.valid (str "exp") = true ∧ Utf8.valid (str "scopes") = true := by decide
  have hitems : (Json.arr (scopes.map .str)).utf8 = true := by
    rw [Json.utf8_arr, List.forall_mem_map]
    exact fun s hs => (Json.utf8_str s).trans (h s hs)
  simp [mintPayload, hkeys, hitems]

/-- What `mint_token` returns is the token of these parts. -/
theorem mintToken_eq (hssl : ssl.IsBase64) (grisu2 : Rat → Bytes × Int) {scopes : List Bytes}
    {ttl : Int} (h : ∀ s ∈ scopes, Utf8.valid s = true) :
    mintToken ssl grisu2 now secret scopes ttl =
      .ok (minted ssl grisu2 secret scopes (now + ttl)).text := by
  have hheader : mintHeader.dump = .ok mintHeader := Json.dump_of_utf8 (by decide)
  have hpayload := Json.dump_of_utf8 (mintPayload_utf8 (now + ttl) h)
  rw [mintToken, hheader, hpayload]
  simp only [base64urlEncode_eq hssl]
  rfl

/-- **and `verify_token` accepts it while it has not expired.** -/
theorem verifyToken_minted (hssl : ssl.IsBase64) (grisu2 : Rat → Bytes × Int)
    {scopes : List Bytes} {exp : Int} (h : ∀ s ∈ scopes, Utf8.valid s = true)
    (hlo : -2 ^ 63 ≤ exp) (hhi : exp < 2 ^ 63) (hnow : now < exp) :
    verifyToken ssl parseJson now (minted ssl grisu2 secret scopes exp).text secret =
      some ⟨scopes, exp⟩ := by
  have hlong : getLong exp = exp := if_neg (not_le.mpr hhi)
  have hheader := parse_encodeUrl hssl (parseJson_mintHeader grisu2)
  have hpayload := parse_encodeUrl hssl (parseJson_mintPayload grisu2 h hlo hhi)
  rw [verifyToken_text hssl (fun hdot => (Base64.encodeUrl_mem hdot).1 rfl)
    (fun hdot => (Base64.encodeUrl_mem hdot).1 rfl) rfl hheader rfl hpayload rfl rfl
    (hlong.symm ▸ hnow), hlong, stringItems_str]

/-- **Bearer tokens.** What is accepted is put together as a token of the server is, over
one signing input nothing else is, and what is minted is accepted until it expires. -/
theorem bearer_tokens (hssl : ssl.IsBase64) (grisu2 : Rat → Bytes × Int) (secret : Bytes) :
    (∀ now token claims, verifyToken ssl parseJson now token secret = some claims →
      ∃ t : TokenParts, token = t.text ∧ Genuine ssl secret now t claims.scopes) ∧
    (∀ now now' token token' claims claims' signingInput sig sig',
      verifyToken ssl parseJson now token secret = some claims →
      verifyToken ssl parseJson now' token' secret = some claims' →
      token = signingInput ++ [46] ++ sig → (46 : UInt8) ∉ sig →
      token' = signingInput ++ [46] ++ sig' → (46 : UInt8) ∉ sig' → token = token') ∧
    (∀ now scopes ttl, (∀ s ∈ scopes, Utf8.valid s = true) → 0 < ttl → -2 ^ 63 ≤ now + ttl →
      now + ttl < 2 ^ 63 → ∃ token, mintToken ssl grisu2 now secret scopes ttl = .ok token ∧
        ∀ later < now + ttl,
          verifyToken ssl parseJson later token secret = some ⟨scopes, now + ttl⟩) := by
  refine ⟨fun now token claims h => verifyToken_eq_some hssl h,
    fun now now' token token' claims claims' signingInput sig sig' h h' htoken hsig htoken' hsig' =>
      verifyToken_unique hssl h h' htoken hsig htoken' hsig',
    fun now scopes ttl hscopes _ hlo hhi => ?_⟩
  exact ⟨_, mintToken_eq hssl grisu2 hscopes,
    fun later hlater => verifyToken_minted hssl grisu2 hscopes hlo hhi hlater⟩

end

/-! ## One token -/

namespace DemoToken

/-- The HMAC-SHA256 of the token below under `demo-secret`. -/
def mac : Bytes :=
  [88, 98, 88, 46, 69, 252, 240, 2, 195, 1, 223, 16, 141, 148, 176, 118, 110, 94, 117, 207, 127,
    247, 8, 104, 105, 222, 78, 103, 121, 178, 74, 193]

def ssl : OpenSsl where
  hmacSha256 := fun _ _ => mac
  encodeBlock := Base64.encode
  decodeBlock := Base64.decode

theorem isBase64 : ssl.IsBase64 := ⟨fun _ => rfl, Base64.decode_encode⟩

end DemoToken

open DemoToken in
/-- Two scopes for an hour: the token is accepted, and put together as it should be. -/
theorem bearer_tokens_demo :
    ∃ token, mintToken ssl allDigits 1700000000 (str "demo-secret")
        [str "read:data", str "execute:routines"] 3600 = .ok token ∧
      verifyToken ssl parseJson 1700003599 token (str "demo-secret") =
        some ⟨[str "read:data", str "execute:routines"], 1700003600⟩ ∧
      ∃ t : TokenParts, token = t.text ∧ Genuine ssl (str "demo-secret") 1700003599 t
        [str "read:data", str "execute:routines"] := by
  obtain ⟨hsound, -, hminted⟩ := bearer_tokens isBase64 allDigits (str "demo-secret")
  obtain ⟨token, htoken, haccepted⟩ := hminted 1700000000
    [str "read:data", str "execute:routines"] 3600 (by decide) (by decide) (by decide) (by decide)
  have hverified := haccepted 1700003599 (by decide)
  exact ⟨token, htoken, hverified, hsound 1700003599 token _ hverified⟩

end Oauth2

end Sovd
