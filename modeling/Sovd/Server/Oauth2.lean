import Sovd.Server.Json

/-!
# Bearer tokens (`server/src/oauth2.cpp`)

A token is `header.payload.signature`, the signature an HMAC over the first two
parts. It is verified before anything in it is looked at; then the header must
say HS256 and the payload must carry an unexpired integer `exp` and an array
`scopes`, of which the strings count.

Mirroring notes vs the C++:
- OpenSSL is a parameter (`OpenSsl`): the HMAC, and the two base64 functions on
  whole blocks.
- `constant_time_equal` is equality. `now` is `now_seconds()`.
- `get<long>` of an unsigned value past `2^63` wraps.
-/

namespace Sovd

/-- The functions of OpenSSL the server calls. -/
structure OpenSsl where
  hmacSha256 : (secret data : Bytes) → Bytes
  /-- `EVP_EncodeBlock`. -/
  encodeBlock : Bytes → Bytes
  /-- `EVP_DecodeBlock`, padding not trimmed; `none` is a negative result. -/
  decodeBlock : Bytes → Option Bytes

/-- `TokenClaims` -/
structure TokenClaims where
  scopes : List Bytes
  exp : Int
  deriving DecidableEq

/-- `has_scope` -/
def TokenClaims.hasScope (claims : TokenClaims) (scope : Bytes) : Bool :=
  claims.scopes.any fun s => s == scope

namespace Oauth2

/-- `base64url_encode` -/
def base64urlEncode (ssl : OpenSsl) (data : Bytes) : Bytes :=
  ((ssl.encodeBlock data).map fun c => if c = 43 then 45 else if c = 47 then 95 else c).reverse
    |>.dropWhile (· == 61) |>.reverse

/-- `base64url_decode`: what the padding stood for is cut off again. -/
def base64urlDecode (ssl : OpenSsl) (text : Bytes) : Option Bytes :=
  let translated := text.map fun c => if c = 45 then 43 else if c = 95 then 47 else c
  let padded := translated ++ List.replicate ((4 - translated.length % 4) % 4) 61
  if padded = [] then none
  else
    let padCount := (padded.reverse.takeWhile (· == 61)).length
    match ssl.decodeBlock padded with
    | none => none
    | some out => if out.length < padCount then none else some (out.take (out.length - padCount))

/-- `get<long>` of an integer the parser read. -/
def getLong (i : Int) : Int := if 2 ^ 63 ≤ i then i - 2 ^ 64 else i

/-- The text up to the first dot and the text after it. -/
def splitDot (s : Bytes) : Option (Bytes × Bytes) :=
  match s.dropWhile (· != 46) with
  | [] => none
  | _ :: after => some (s.takeWhile (· != 46), after)

/-- The items that are strings; the others are passed over. -/
def stringItems : List Json → List Bytes := List.filterMap Json.getString?

/-- `verify_token`: the signature is checked before anything is parsed. -/
def verifyToken (ssl : OpenSsl) (parse : JsonParser) (now : Int) (token secret : Bytes) :
    Option TokenClaims :=
  match splitDot token with
  | none => none
  | some (headerB64, rest) =>
    match splitDot rest with
    | none => none
    | some (payloadB64, sigB64) =>
      let signingInput := headerB64 ++ [46] ++ payloadB64
      if sigB64 ≠ base64urlEncode ssl (ssl.hmacSha256 secret signingInput) then none
      else
        match (base64urlDecode ssl headerB64).bind parse with
        | none => none
        | some header =>
          if (header.get? (str "alg")).bind Json.getString? ≠ some (str "HS256") then none
          else
            match (base64urlDecode ssl payloadB64).bind parse with
            | none => none
            | some payload =>
              match payload.get? (str "exp"), payload.get? (str "scopes") with
              | some (.int exp), some (.arr items) =>
                if getLong exp ≤ now then none else some ⟨stringItems items, getLong exp⟩
              | _, _ => none

/-- The claims of an `Authorization` header that carries a valid bearer token. -/
def bearerClaims (ssl : OpenSsl) (parse : JsonParser) (now : Int) (secret authHeader : Bytes) :
    Option TokenClaims :=
  let marker := str "Bearer "
  if authHeader.length ≤ marker.length ∨ authHeader.take marker.length ≠ marker then none
  else verifyToken ssl parse now (authHeader.drop marker.length) secret

end Oauth2

end Sovd
