import SsnConsole.UrlQuery

/-!
# Signed requests to Payrexx

Every request carries a signature of its payload: of the form for requests that
have one, and of the empty text for the others.  The signature is a parameter
itself, of the form or of the query.
-/

namespace SsnConsole.PaymentsService

open SsnConsole.GoStandard
open SsnConsole.UrlQuery

/-- A parsed URL, split at its query. -/
structure Endpoint where
  location : Bytes
  rawQuery : Bytes
  deriving DecidableEq

/-- `Endpoint.Query`. -/
def Endpoint.query (endpoint : Endpoint) : Values :=
  parseQuery endpoint.rawQuery

/-- What the client uses of `net/url` and of the cryptography of Go. -/
class PayrexxLibraries where
  /-- `url.Parse`. -/
  parse : Bytes → Except String Endpoint
  /-- HMAC with SHA-256: the secret and the message. -/
  hmacSHA256 : Bytes → Bytes → Bytes
  /-- `base64.StdEncoding`. -/
  base64 : Bytes → Bytes

open PayrexxLibraries

/-- `Client`. -/
structure Client where
  baseURL : Bytes
  instanceName : Bytes
  apiSecret : Bytes

/-- `NewClient`. -/
def newClient (baseURL instanceName apiSecret : Bytes) : Client :=
  ⟨baseURL.rdropWhile (· == 47), instanceName, apiSecret⟩

/-- A request as it is sent. -/
structure OutgoingRequest where
  method : Bytes
  endpoint : Endpoint
  contentType : Bytes
  body : Bytes

/-- The parameter of the signature. -/
def apiSignature : Bytes :=
  bytesOf "ApiSignature"

/-- Methods whose requests have no body. -/
def isBodiless (method : Bytes) : Bool :=
  method == bytesOf "GET" || method == bytesOf "DELETE"

section Requests

variable [PayrexxLibraries]

/-- `sign`. -/
def sign (payload secret : Bytes) : Bytes :=
  base64 (hmacSHA256 secret payload)

/-- The first branch of `Client.Do`: the signature of the empty text goes into the query. -/
def queryRequest (client : Client) (method : Bytes) (endpoint : Endpoint) (body : Values) :
    OutgoingRequest :=
  let mq := (endpoint.query.addAll body.pairs).set apiSignature (sign [] client.apiSecret)
  { method := method
    endpoint := { endpoint with rawQuery := mq.encode }
    contentType := []
    body := [] }

/-- The other branch of `Client.Do`: the form is signed, and the signature goes behind it. -/
def formRequest (client : Client) (method : Bytes) (endpoint : Endpoint) (body : Values) :
    OutgoingRequest :=
  let payload := body.encode
  let signed := if payload = [] then payload else payload ++ [38]
  { method := method
    endpoint := endpoint
    contentType := bytesOf "application/x-www-form-urlencoded"
    body := signed ++ apiSignature ++ 61 :: queryEscape (sign payload client.apiSecret) }

/-- `Client.Do` up to the request that it sends. -/
def buildRequest (client : Client) (method path : Bytes) (body : Values) :
    Except String OutgoingRequest := do
  let body := body.del apiSignature
  let endpoint ← (parse (client.baseURL ++ path)).mapError fun error =>
    s!"payrexx: invalid url: {error}"
  let q := endpoint.query.set (bytesOf "instance") client.instanceName
  let endpoint := { endpoint with rawQuery := q.encode }
  if isBodiless method then
    return queryRequest client method endpoint body
  else
    return formRequest client method endpoint body

omit [PayrexxLibraries] in
/-- The name of the signature is written as it is. -/
theorem queryEscape_apiSignature : queryEscape apiSignature = apiSignature := by
  decide +kernel

omit [PayrexxLibraries] in
/-- A form with its signature is the form with one more parameter. -/
theorem signedForm_eq
    (body : Values)
    (signature : Bytes) :
    (if body.encode = [] then body.encode else body.encode ++ [38]) ++ apiSignature ++
        61 :: queryEscape signature =
      List.intercalate [38] ((body.pairs ++ [(apiSignature, signature)]).map parameterText) := by
  have last :
      parameterText (apiSignature, signature) = apiSignature ++ 61 :: queryEscape signature := by
    rw [parameterText, queryEscape_apiSignature]
  rw [List.map_append, List.map_singleton, last]
  by_cases empty : body.pairs = []
  · rw [if_pos ((encode_eq_nil_iff body).mpr empty), (encode_eq_nil_iff body).mpr empty, empty]
    simp
  · rw [if_neg (mt (encode_eq_nil_iff body).mp empty), intercalate_concat _ _ (by simpa using empty)]
    simp [Values.encode]

omit [PayrexxLibraries] in
/-- A signed form is read as the form and the signature. -/
theorem valuesOf_signedForm
    (body : Values)
    (signature name : Bytes) :
    (parseQuery
        ((if body.encode = [] then body.encode else body.encode ++ [38]) ++ apiSignature ++
          61 :: queryEscape signature)).valuesOf name =
      body.valuesOf name ++ if apiSignature = name then [signature] else [] := by
  rw [signedForm_eq, parseQuery_intercalate, Values.valuesOf_addAll, List.filter_append,
    List.map_append, Values.filter_pairs, Values.valuesOf_empty, List.nil_append]
  by_cases named : apiSignature = name
  · simp [named]
  · simp [named]

/-- The parameters that every request has: the client's instance, and those of the path. -/
def baseValues (client : Client) (endpoint : Endpoint) (name : Bytes) : List Bytes :=
  if name = bytesOf "instance" then [client.instanceName] else endpoint.query.valuesOf name

/-- The endpoint with the client's instance in its query. -/
def withInstance (client : Client) (endpoint : Endpoint) : Endpoint :=
  { endpoint with
    rawQuery := (endpoint.query.set (bytesOf "instance") client.instanceName).encode }

omit [PayrexxLibraries] in
/-- The query has the client's instance in place of any other. -/
theorem valuesOf_withInstance
    (client : Client)
    (endpoint : Endpoint)
    (name : Bytes) :
    (withInstance client endpoint).query.valuesOf name = baseValues client endpoint name := by
  show (parseQuery (Values.encode _)).valuesOf name = _
  rw [valuesOf_parseQuery_encode, Values.valuesOf_set]
  rfl

/-- A request in a query has one signature, and the caller's parameters behind the others. -/
theorem valuesOf_queryRequest
    (client : Client)
    (method : Bytes)
    (endpoint : Endpoint)
    (body : Values)
    (name : Bytes) :
    (queryRequest client method (withInstance client endpoint)
          (body.del apiSignature)).endpoint.query.valuesOf name =
      if name = apiSignature then
        [sign [] client.apiSecret]
      else
        baseValues client endpoint name ++ body.valuesOf name := by
  show (parseQuery (Values.encode _)).valuesOf name = _
  rw [valuesOf_parseQuery_encode, Values.valuesOf_set]
  by_cases named : name = apiSignature
  · rw [if_pos named, if_pos named]
  · rw [if_neg named, if_neg named, Values.valuesOf_addAll_pairs, valuesOf_withInstance,
      Values.valuesOf_del, if_neg named]

/-- A form is the caller's, and its signature is of all that is before it. -/
theorem valuesOf_formRequest
    (client : Client)
    (method : Bytes)
    (endpoint : Endpoint)
    (body : Values) :
    let form := parseQuery (formRequest client method endpoint (body.del apiSignature)).body
    form.valuesOf apiSignature = [sign (form.del apiSignature).encode client.apiSecret] ∧
      ∀ name, name ≠ apiSignature → form.valuesOf name = body.valuesOf name := by
  intro form
  have values (name : Bytes) :
      form.valuesOf name =
        (body.del apiSignature).valuesOf name ++
          if apiSignature = name then
            [sign (body.del apiSignature).encode client.apiSecret]
          else
            [] :=
    valuesOf_signedForm _ _ name
  have others (name : Bytes) (other : name ≠ apiSignature) :
      form.valuesOf name = body.valuesOf name := by
    rw [values, Values.valuesOf_del, if_neg other, if_neg other.symm, List.append_nil]
  have again : (form.del apiSignature).encode = (body.del apiSignature).encode := by
    unfold Values.encode
    rw [Values.pairs_congr]
    intro name
    rw [Values.valuesOf_del, Values.valuesOf_del]
    by_cases named : name = apiSignature
    · rw [if_pos named, if_pos named]
    · rw [if_neg named, if_neg named, others name named]
  refine ⟨?_, others⟩
  rw [again, values, Values.valuesOf_del, if_pos rfl, if_pos rfl, List.nil_append]

/--
What Payrexx reads of a request whose URL parses.  A form has one signature, of
exactly the other parameters as they are written again in their order, and these
are the caller's without its signature; the query beside the form is the path's,
with a signature that the path has.  A request without a body has one signature,
of the empty text, in its query, in place of any other; there the caller's
parameters follow those of the path.  In both queries the client's instance
stands for the path's, and a caller's instance follows it in the second.
-/
theorem buildRequest_signed
    (client : Client)
    (method path : Bytes)
    (body : Values)
    (endpoint : Endpoint)
    (parsed : parse (client.baseURL ++ path) = .ok endpoint) :
    ∃ request,
      buildRequest client method path body = .ok request ∧ request.method = method ∧
        request.endpoint.location = endpoint.location ∧
          (isBodiless method = true →
            request.body = [] ∧
              ∀ name,
                request.endpoint.query.valuesOf name =
                  if name = apiSignature then
                    [sign [] client.apiSecret]
                  else
                    baseValues client endpoint name ++ body.valuesOf name) ∧
          (isBodiless method = false →
            (∀ name,
              request.endpoint.query.valuesOf name = baseValues client endpoint name) ∧
              let form := parseQuery request.body
              form.valuesOf apiSignature =
                  [sign (form.del apiSignature).encode client.apiSecret] ∧
                ∀ name, name ≠ apiSignature → form.valuesOf name = body.valuesOf name) := by
  have built :
      buildRequest client method path body =
        .ok
          (if isBodiless method then
            queryRequest client method (withInstance client endpoint) (body.del apiSignature)
          else
            formRequest client method (withInstance client endpoint)
              (body.del apiSignature)) := by
    simp only [buildRequest, parsed, Except.mapError]
    cases isBodiless method <;> rfl
  refine ⟨_, built, ?_⟩
  cases isBodiless method with
  | true =>
      refine ⟨rfl, rfl, ?_, nofun⟩
      exact fun _ => ⟨rfl, valuesOf_queryRequest client method endpoint body⟩
  | false =>
      refine ⟨rfl, rfl, nofun, ?_⟩
      exact fun _ =>
        ⟨valuesOf_withInstance client endpoint, valuesOf_formRequest client method _ body⟩

end Requests

section Gateway

/-- The digest of the form below under the secret. -/
def gatewayDigest : Bytes :=
  (hexDecode
    (bytesOf
      ("16977d114f35f1f3da71592322bb49e6" ++
        "79f18b70a9a6bc42177fca71f794c53f"))).getD []

/-- The libraries at what the request below needs. -/
@[reducible]
def gatewayLibraries : PayrexxLibraries where
  parse text :=
    if text = bytesOf "https://api.payrexx.com/v1.0/Gateway/" then
      .ok ⟨text, []⟩
    else
      .error "parse error"
  hmacSHA256 secret message :=
    if secret = bytesOf "shhh-very-secret" ∧ message = bytesOf "amount=1000&currency=CHF" then
      gatewayDigest
    else
      []
  base64 bytes :=
    if bytes = gatewayDigest then bytesOf "Fpd9EU818fPacVkjIrtJ5nnxi3CpprxCF3/KcfeUxT8=" else []

attribute [local instance] gatewayLibraries

/-- The client of a shop. -/
def shopClient : Client :=
  newClient (bytesOf "https://api.payrexx.com/v1.0/") (bytesOf "testshop")
    (bytesOf "shhh-very-secret")

/-- A form with an amount, a currency, and a signature that does not count. -/
def gatewayForm : Values :=
  ((((∅ : Values).set (bytesOf "currency") (bytesOf "CHF")).set (bytesOf "amount")
    (bytesOf "1000")).set apiSignature (bytesOf "forged"))

/-- The form is read with its amount, and with the client's own signature. -/
theorem buildRequest_signed_gatewayForm :
    ∃ request,
      buildRequest shopClient (bytesOf "POST") (bytesOf "/Gateway/") gatewayForm = .ok request ∧
        (parseQuery request.body).valuesOf apiSignature =
          [sign ((parseQuery request.body).del apiSignature).encode shopClient.apiSecret] ∧
          (parseQuery request.body).valuesOf (bytesOf "amount") = [bytesOf "1000"] := by
  obtain ⟨request, built, -, -, -, form⟩ :=
    buildRequest_signed shopClient (bytesOf "POST") (bytesOf "/Gateway/") gatewayForm
      ⟨bytesOf "https://api.payrexx.com/v1.0/Gateway/", []⟩ (by decide +kernel)
  obtain ⟨-, signed, others⟩ := form (by decide +kernel)
  refine ⟨request, built, signed, ?_⟩
  rw [others _ (by decide +kernel)]
  decide +kernel

end Gateway

end SsnConsole.PaymentsService
