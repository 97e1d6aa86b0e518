import ImageValidatingWebhook.Basic

/-!
# ImageValidatingWebhook.Trust.Token — the notary client's token (package `trust`)

`NewReadOnly` asks `notaryRepo.GetToken` for the token its transport sends to the notary server.
`GetToken` keeps a token that has a type and a value; otherwise `fetchToken` probes the server's
`/v2` endpoint, takes a `2xx` answer as "no token, or the image's basic auth", and on a `401`
asks the realm of the first `WWW-Authenticate` challenge for a bearer token (`setToken`). Both
requests carry the image's basic auth when it has one.

The HTTP client is a field of `NotaryClient`, a function of the requests sent before, so what is
proved holds for every server. The state is the cached token and the requests sent so far.
`Fetch` says what one fetch can do, protocol step by protocol step; `fetchToken_fetch` shows
the code does only that.

* `getToken_error_keeps_token`: a failed `GetToken` leaves the cached token as it was.
* `getToken_requests`: every request `GetToken` sends carries the image's basic auth when it has
  one (the probe too) and goes to the server's `/v2` URL or, after a `401` probe, to the realm
  the server named, asking for a pull and push scope on the image's repository.
* `getToken_ok`: a successful `GetToken` returns the token it caches: the one it held, or none
  or the basic auth after a `2xx` probe, or the bearer token the realm returned.
* `getToken_next_cached`: the call after a successful one is answered from the cache exactly
  when the token returned has a value; after no token, or an empty bearer token, it fetches
  again.
-/

namespace ImageValidatingWebhook.Trust

/-- `auth.Token`. -/
structure Token where
  type : String
  value : String
deriving DecidableEq, Repr

/-- A `GET` request the client sends: the URL, the query parameters it adds (`Encode` sorts them
by key, so the order the Go map is ranged in does not show), and its `Authorization` header. -/
structure Request where
  url : String
  params : List (String × String)
  authorization : Option String
deriving DecidableEq, Repr

/-- `challenge.Challenge`, by the parameters of a `WWW-Authenticate` challenge. -/
structure Challenge where
  parameters : List (String × String)
deriving DecidableEq, Repr

/-- An HTTP response, by what the client reads of it. -/
structure Response where
  statusCode : Nat
  /-- The challenges of its `WWW-Authenticate` headers. -/
  wwwAuthenticate : List Challenge
  /-- The `token` field of its body decoded as an `auth.TokenResponse`. -/
  tokenResponse : Except GoError String
  /-- The error `regclient.HandleErrorResponse` makes of it. -/
  errorResponse : GoError

/-- `challenge.ResponseChallenges`: the challenges of a `401` response, none of any other. -/
def responseChallenges (resp : Response) : List Challenge :=
  if resp.statusCode = 401 then resp.wwwAuthenticate else []

/-- `regclient.SuccessStatus`. -/
def successStatus (status : Nat) : Bool := 200 ≤ status && status ≤ 399

/-- A `notaryRepo` getting its token: what the code reads of it and of its image, and the calls
it makes to the network library. -/
structure NotaryClient where
  notaryServerURL : String
  /-- `n.image.BasicAuth`. -/
  basicAuth : String
  /-- `n.image.GetImageNameWithHost()`. -/
  imageNameWithHost : String
  /-- `url.Parse` of a URL with `v2` joined to its path by `path.Join`, written back by
  `String()`. -/
  v2URL : String → Except GoError String
  /-- The error of `http.NewRequest(http.MethodGet, url, nil)`. -/
  newRequest : String → Option GoError
  /-- `n.image.HttpClient.Do`: the response to a request, given the requests sent before. -/
  httpDo : List Request → Request → Except GoError Response

/-- What `GetToken` reads and writes: `n.token`, and the requests sent so far. -/
structure TokenState where
  token : Option Token
  sent : List Request

namespace NotaryClient

variable (c : NotaryClient)

/-- The `Authorization` header of both requests: `Basic` and the image's basic auth, when it has
one. -/
def authorization : Option String :=
  if c.basicAuth ≠ "" then some ("Basic " ++ c.basicAuth) else none

/-- The probe of `fetchToken`: `GET` of the server's `/v2` URL. -/
def pingRequest (u : String) : Request := ⟨u, [], c.authorization⟩

/-- The request of `setToken`: `GET` of the realm, with the service and a pull and push scope on
the image's repository. -/
def tokenRequest (service realm : String) : Request :=
  ⟨realm, [("service", service), ("scope", "repository:" ++ c.imageNameWithHost ++ ":pull,push")],
    c.authorization⟩

/-- `HttpClient.Do`, adding the request to those sent. -/
def send (req : Request) (s : TokenState) : Except GoError Response × TokenState :=
  (c.httpDo s.sent req, { s with sent := s.sent ++ [req] })

/-- `checkPingResponse`: a `2xx` answer sets the token to none, or to the image's basic auth. -/
def checkPingResponse (pingResp : Nat) (s : TokenState) : Bool × TokenState :=
  if pingResp ≥ 200 ∧ pingResp < 300 then
    (true, { s with token := if c.basicAuth = "" then none else some ⟨"Basic", c.basicAuth⟩ })
  else (false, s)

/-- `setToken`: asks the realm for a token, and caches it as a bearer token. -/
def setToken (service realm : String) (s : TokenState) : Option GoError × TokenState :=
  match c.newRequest realm with
  | some err => (some err, s)
  | none =>
    match c.send (c.tokenRequest service realm) s with
    | (.error err, s) => (some err, s)
    | (.ok tokenResp, s) =>
      if !successStatus tokenResp.statusCode then (some tokenResp.errorResponse, s)
      else
        match tokenResp.tokenResponse with
        | .error err => (some err, s)
        | .ok token => (none, { s with token := some ⟨"Bearer", token⟩ })

/-- `fetchToken`: probes the server, and on a `401` asks the realm of the first challenge. -/
def fetchToken (s : TokenState) : Option GoError × TokenState :=
  match c.v2URL c.notaryServerURL with
  | .error err => (some err, s)
  | .ok u =>
    match c.newRequest u with
    | some err => (some err, s)
    | none =>
      match c.send (c.pingRequest u) s with
      | (.error err, s) => (some err, s)
      | (.ok pingResp, s) =>
        match c.checkPingResponse pingResp.statusCode s with
        | (true, s) => (none, s)
        | (false, s) =>
          match responseChallenges pingResp with
          | [] => (some ⟨"header does not contain WWW-Authenticate"⟩, s)
          | challenge :: _ =>
            match GoMap.lookup "realm" challenge.parameters,
                GoMap.lookup "service" challenge.parameters with
            | some realm, some service => c.setToken service realm s
            | _, _ => (some ⟨"there is no realm or service in parameters"⟩, s)

/-- `GetToken`: the cached token when it has a type and a value, or else the one `fetchToken`
leaves. -/
def getToken (s : TokenState) : Except GoError (Option Token) × TokenState :=
  let fetch := match s.token with
    | none => true
    | some token => token.type = "" || token.value = ""
  if fetch then
    match c.fetchToken s with
    | (some err, s) => (.error err, s)
    | (none, s) => (.ok s.token, s)
  else (.ok s.token, s)

/-! ## What one fetch can do -/

/-- The first challenge of a `401` answer names a realm and a service. -/
def Challenged (resp : Response) (realm service : String) : Prop :=
  ∃ challenge rest, responseChallenges resp = challenge :: rest ∧
    GoMap.lookup "realm" challenge.parameters = some realm ∧
    GoMap.lookup "service" challenge.parameters = some service

/-- What one `fetchToken` from the state `s` can do: the error it returns (`none` when it
succeeds) and the state it leaves. -/
inductive Fetch (s : TokenState) : Option GoError → TokenState → Prop where
  /-- It fails before sending anything. -/
  | unsent (err : GoError) : Fetch s (some err) s
  /-- It fails once the probe is sent. -/
  | probeFailed {u : String} (err : GoError) : c.v2URL c.notaryServerURL = .ok u →
      Fetch s (some err) { s with sent := s.sent ++ [c.pingRequest u] }
  /-- The probe is answered `2xx`: no token, or the image's basic auth. -/
  | probeOk {u : String} {pingResp : Response} : c.v2URL c.notaryServerURL = .ok u →
      c.httpDo s.sent (c.pingRequest u) = .ok pingResp →
      200 ≤ pingResp.statusCode → pingResp.statusCode < 300 →
      Fetch s none ⟨if c.basicAuth = "" then none else some ⟨"Basic", c.basicAuth⟩,
        s.sent ++ [c.pingRequest u]⟩
  /-- The probe is challenged, and the request for a token is sent and fails. -/
  | tokenFailed {u realm service : String} {pingResp : Response} (err : GoError) :
      c.v2URL c.notaryServerURL = .ok u → c.httpDo s.sent (c.pingRequest u) = .ok pingResp →
      Challenged pingResp realm service →
      Fetch s (some err)
        { s with sent := s.sent ++ [c.pingRequest u] ++ [c.tokenRequest service realm] }
  /-- The probe is challenged, and the realm answers with a token. -/
  | bearer {u realm service token : String} {pingResp tokenResp : Response} :
      c.v2URL c.notaryServerURL = .ok u → c.httpDo s.sent (c.pingRequest u) = .ok pingResp →
      Challenged pingResp realm service →
      c.httpDo (s.sent ++ [c.pingRequest u]) (c.tokenRequest service realm) = .ok tokenResp →
      successStatus tokenResp.statusCode → tokenResp.tokenResponse = .ok token →
      Fetch s none ⟨some ⟨"Bearer", token⟩,
        s.sent ++ [c.pingRequest u] ++ [c.tokenRequest service realm]⟩

variable {c} {s : TokenState}

/-- After a challenged probe, `setToken` does what `Fetch` allows. -/
theorem fetch_setToken {u realm service : String} {pingResp : Response}
    (hu : c.v2URL c.notaryServerURL = .ok u)
    (hping : c.httpDo s.sent (c.pingRequest u) = .ok pingResp)
    (hch : Challenged pingResp realm service) :
    c.Fetch s (c.setToken service realm { s with sent := s.sent ++ [c.pingRequest u] }).1
      (c.setToken service realm { s with sent := s.sent ++ [c.pingRequest u] }).2 := by
  unfold setToken
  rcases hnew : c.newRequest realm with _ | err
  · rcases hreq : c.httpDo (s.sent ++ [c.pingRequest u]) (c.tokenRequest service realm) with
      err | tokenResp
    · simp only [send, hreq]
      exact .tokenFailed err hu hping hch
    · cases hok : successStatus tokenResp.statusCode
      · simp only [send, hreq, hok, Bool.not_false, if_true]
        exact .tokenFailed _ hu hping hch
      · rcases htoken : tokenResp.tokenResponse with err | token
        · simp only [send, hreq, hok, htoken, Bool.not_true, Bool.false_eq_true, if_false]
          exact .tokenFailed err hu hping hch
        · simp only [send, hreq, hok, htoken, Bool.not_true, Bool.false_eq_true, if_false]
          exact .bearer hu hping hch hreq hok htoken
  · exact .probeFailed err hu

/-- `fetchToken` does only what `Fetch` allows. -/
theorem fetchToken_fetch (s : TokenState) : c.Fetch s (c.fetchToken s).1 (c.fetchToken s).2 := by
  unfold fetchToken
  rcases hu : c.v2URL c.notaryServerURL with err | u
  · exact .unsent err
  dsimp only
  rcases hnew : c.newRequest u with _ | err
  · rcases hping : c.httpDo s.sent (c.pingRequest u) with err | pingResp
    · simp only [send, hping]
      exact .probeFailed err hu
    by_cases h2xx : pingResp.statusCode ≥ 200 ∧ pingResp.statusCode < 300
    · simp only [send, hping, checkPingResponse, h2xx, and_self, if_true]
      exact .probeOk hu hping h2xx.1 h2xx.2
    simp only [send, hping, checkPingResponse, h2xx, if_false]
    rcases hch : responseChallenges pingResp with _ | ⟨challenge, rest⟩
    · exact .probeFailed _ hu
    dsimp only
    rcases hrealm : GoMap.lookup "realm" challenge.parameters with _ | realm <;>
      rcases hservice : GoMap.lookup "service" challenge.parameters with _ | service
    · exact .probeFailed _ hu
    · exact .probeFailed _ hu
    · exact .probeFailed _ hu
    · exact fetch_setToken hu hping ⟨challenge, rest, hch, hrealm, hservice⟩
  · exact .unsent err

/-- `GetToken` returns the cached token untouched when it has a type and a value, and otherwise
fetches: it fails with the fetch's error, or returns the token the fetch left. -/
theorem getToken_eq (s : TokenState) :
    (∃ t, s.token = some t ∧ t.type ≠ "" ∧ t.value ≠ "" ∧ c.getToken s = (.ok s.token, s)) ∨
      ∃ e s', c.Fetch s e s' ∧
        c.getToken s = ((match e with | some err => .error err | none => .ok s'.token), s') := by
  have hfetch : ∃ e s', c.Fetch s e s' ∧ (match c.fetchToken s with
      | (some err, s) => ((.error err : Except GoError (Option Token)), s)
      | (none, s) => (.ok s.token, s)) =
        ((match e with | some err => .error err | none => .ok s'.token), s') :=
    ⟨_, _, c.fetchToken_fetch s, by rcases c.fetchToken s with ⟨_ | err, s'⟩ <;> rfl⟩
  unfold getToken
  rcases htok : s.token with _ | t
  · exact .inr hfetch
  · by_cases hkeep : t.type = "" ∨ t.value = ""
    · refine .inr ?_
      simpa [hkeep] using hfetch
    · rw [not_or] at hkeep
      exact .inl ⟨t, rfl, hkeep.1, hkeep.2, by simp [hkeep]⟩

/-! ## What `GetToken` guarantees -/

/-- A fetch that fails leaves the token as it was. -/
theorem Fetch.token_of_error {err : GoError} {s' : TokenState} (h : c.Fetch s (some err) s') :
    s'.token = s.token := by
  cases h <;> rfl

/-- A request `GetToken` may send from the state `s`: it carries the image's basic auth when the
image has one, and it is the probe of the server's `/v2` URL or, when the server answered the
probe with a challenge, the request for a token to the challenge's realm. -/
def AllowedRequest (c : NotaryClient) (s : TokenState) (req : Request) : Prop :=
  req.authorization = (if c.basicAuth ≠ "" then some ("Basic " ++ c.basicAuth) else none) ∧
    ∃ u, c.v2URL c.notaryServerURL = .ok u ∧
      (req = c.pingRequest u ∨ ∃ pingResp realm service,
        c.httpDo s.sent (c.pingRequest u) = .ok pingResp ∧ Challenged pingResp realm service ∧
          req = c.tokenRequest service realm)

/-- A fetch only sends allowed requests. -/
theorem Fetch.sent {e : Option GoError} {s' : TokenState} (h : c.Fetch s e s') :
    ∃ new, s'.sent = s.sent ++ new ∧ ∀ req ∈ new, c.AllowedRequest s req := by
  have hping : ∀ {u}, c.v2URL c.notaryServerURL = .ok u → c.AllowedRequest s (c.pingRequest u) :=
    fun hu => ⟨rfl, _, hu, .inl rfl⟩
  have htoken : ∀ {u pingResp realm service}, c.v2URL c.notaryServerURL = .ok u →
      c.httpDo s.sent (c.pingRequest u) = .ok pingResp → Challenged pingResp realm service →
      c.AllowedRequest s (c.tokenRequest service realm) :=
    fun hu hp hch => ⟨rfl, _, hu, .inr ⟨_, _, _, hp, hch, rfl⟩⟩
  cases h with
  | unsent => exact ⟨[], by simp, by simp⟩
  | probeFailed _ hu => exact ⟨_, rfl, by simpa using hping hu⟩
  | probeOk hu => exact ⟨_, rfl, by simpa using hping hu⟩
  | tokenFailed _ hu hp hch =>
    exact ⟨_, List.append_assoc _ _ _, by simpa using ⟨hping hu, htoken hu hp hch⟩⟩
  | bearer hu hp hch =>
    exact ⟨_, List.append_assoc _ _ _, by simpa using ⟨hping hu, htoken hu hp hch⟩⟩

/-- A fetch that succeeds has sent the probe at least. -/
theorem Fetch.sent_ne {s' : TokenState} (h : c.Fetch s none s') : s'.sent ≠ s.sent := by
  cases h <;> simp

/-- A fetch that succeeds leaves no token, or one with a type, `Basic` or `Bearer`. -/
theorem Fetch.type_ne {s' : TokenState} (h : c.Fetch s none s') :
    ∀ t, s'.token = some t → t.type ≠ "" := by
  cases h with
  | probeOk =>
    intro t ht
    split at ht <;> cases ht
    simp
  | bearer => rintro t ⟨⟩; simp

/-- `GetToken` answers from its cache, sending nothing, exactly when the cached token has a type
and a value. -/
theorem getToken_eq_cached_iff (s : TokenState) :
    c.getToken s = (.ok s.token, s) ↔ ∃ t, s.token = some t ∧ t.type ≠ "" ∧ t.value ≠ "" := by
  refine ⟨fun hc => ?_, fun ⟨t, ht, htype, hvalue⟩ => by simp [getToken, ht, htype, hvalue]⟩
  rcases c.getToken_eq s with ⟨t, ht, htype, hvalue, -⟩ | ⟨e, s', hf, heq⟩
  · exact ⟨t, ht, htype, hvalue⟩
  · rw [heq] at hc
    cases e with
    | some err => simp at hc
    | none => exact absurd (congrArg TokenState.sent (Prod.mk.inj hc).2) hf.sent_ne

/-- A successful `GetToken` returns the token it leaves cached, which has a type if any. -/
theorem getToken_ok_token {s : TokenState} {token : Option Token}
    (h : (c.getToken s).1 = .ok token) :
    (c.getToken s).2.token = token ∧ ∀ t, token = some t → t.type ≠ "" := by
  rcases c.getToken_eq s with ⟨t, ht, htype, -, heq⟩ | ⟨e, s', hf, heq⟩ <;> rw [heq] at h ⊢
  · obtain rfl := Except.ok.inj h
    exact ⟨rfl, fun t' ht' => Option.some.inj (ht.symm.trans ht') ▸ htype⟩
  · cases e with
    | some err => cases h
    | none =>
      obtain rfl := Except.ok.inj h
      exact ⟨rfl, hf.type_ne⟩

end NotaryClient

open NotaryClient

/-- A `GetToken` that fails leaves the cached token as it was. -/
theorem getToken_error_keeps_token (c : NotaryClient) (s : TokenState) {err : GoError}
    (h : (c.getToken s).1 = .error err) : (c.getToken s).2.token = s.token := by
  rcases c.getToken_eq s with ⟨t, -, -, -, heq⟩ | ⟨e, s', hf, heq⟩
  · rw [heq]
  · rw [heq] at h ⊢
    cases e with
    | none => cases h
    | some err => exact hf.token_of_error

/-- A server that challenges every request but those to `https://auth.example.com/token`, whose
realm is that URL, and which answers there with `tokenResp`. -/
def challengingClient (tokenResp : Response) : NotaryClient where
  notaryServerURL := "https://notary.example.com"
  basicAuth := "dXNlcjpwYXNz"
  imageNameWithHost := "registry.example.com/app"
  v2URL u := .ok (u ++ "/v2")
  newRequest _ := none
  httpDo _ req :=
    if req.url = "https://auth.example.com/token" then .ok tokenResp
    else .ok ⟨401, [⟨[("realm", "https://auth.example.com/token"),
      ("service", "notary.example.com")]⟩], .error ⟨"EOF"⟩, ⟨"unauthorized"⟩⟩

/-- A client holding a bearer token with no value fetches again; the realm answers `500`, and the
token it held stays. -/
theorem getToken_error_keeps_token_500 :
    ((challengingClient ⟨500, [], .error ⟨"EOF"⟩, ⟨"internal"⟩⟩).getToken
        ⟨some ⟨"Bearer", ""⟩, []⟩).1 = .error ⟨"internal"⟩ ∧
      ((challengingClient ⟨500, [], .error ⟨"EOF"⟩, ⟨"internal"⟩⟩).getToken
        ⟨some ⟨"Bearer", ""⟩, []⟩).2.token = some ⟨"Bearer", ""⟩ :=
  have h : ((challengingClient ⟨500, [], .error ⟨"EOF"⟩, ⟨"internal"⟩⟩).getToken
      ⟨some ⟨"Bearer", ""⟩, []⟩).1 = .error ⟨"internal"⟩ := rfl
  ⟨h, getToken_error_keeps_token _ _ h⟩

/-- Every request `GetToken` sends carries `Basic` and the image's basic auth when the image has
one, the probe included, and goes to the server's `/v2` URL or, when the server answered the
probe with a challenge, to the realm of that challenge, asking for a token with the challenge's
service and a pull and push scope on the image's repository. -/
theorem getToken_requests (c : NotaryClient) (s : TokenState) :
    ∃ new, (c.getToken s).2.sent = s.sent ++ new ∧ ∀ req ∈ new, c.AllowedRequest s req := by
  rcases c.getToken_eq s with ⟨t, -, -, -, heq⟩ | ⟨e, s', hf, heq⟩ <;> rw [heq]
  · exact ⟨[], (List.append_nil _).symm, by simp⟩
  · exact hf.sent

/-- A successful `GetToken` returns the token it caches: the one it held, when that has a type and
a value; none or `Basic` and the image's basic auth, when the server answered the probe `2xx`;
or, when it challenged the probe, `Bearer` and the token the realm returned. -/
theorem getToken_ok (c : NotaryClient) (s : TokenState) {token : Option Token}
    (h : (c.getToken s).1 = .ok token) :
    (c.getToken s).2.token = token ∧
      ((∃ t, s.token = some t ∧ t.type ≠ "" ∧ t.value ≠ "" ∧ token = some t) ∨
        (∃ u pingResp, c.v2URL c.notaryServerURL = .ok u ∧
          c.httpDo s.sent (c.pingRequest u) = .ok pingResp ∧
          200 ≤ pingResp.statusCode ∧ pingResp.statusCode < 300 ∧
          token = if c.basicAuth = "" then none else some ⟨"Basic", c.basicAuth⟩) ∨
        (∃ u realm service pingResp tokenResp value, c.v2URL c.notaryServerURL = .ok u ∧
          c.httpDo s.sent (c.pingRequest u) = .ok pingResp ∧ Challenged pingResp realm service ∧
          c.httpDo (s.sent ++ [c.pingRequest u]) (c.tokenRequest service realm) = .ok tokenResp ∧
          successStatus tokenResp.statusCode ∧ tokenResp.tokenResponse = .ok value ∧
          token = some ⟨"Bearer", value⟩)) := by
  rcases c.getToken_eq s with ⟨t, ht, htype, hvalue, heq⟩ | ⟨e, s', hf, heq⟩ <;>
    rw [heq] at h ⊢
  · obtain rfl := Except.ok.inj h
    exact ⟨rfl, .inl ⟨t, ht, htype, hvalue, ht⟩⟩
  · cases hf with
    | unsent => cases h
    | probeFailed => cases h
    | probeOk hu hp h₁ h₂ =>
      obtain rfl := Except.ok.inj h
      exact ⟨rfl, .inr (.inl ⟨_, _, hu, hp, h₁, h₂, rfl⟩)⟩
    | tokenFailed => cases h
    | bearer hu hp hch htr hok htok =>
      obtain rfl := Except.ok.inj h
      exact ⟨rfl, .inr (.inr ⟨_, _, _, _, _, _, hu, hp, hch, htr, hok, htok, rfl⟩)⟩

/-- The challenged probe leads to a token request to the realm, which returns the token `abc`. -/
theorem getToken_ok_bearer :
    ((challengingClient ⟨200, [], .ok "abc", ⟨""⟩⟩).getToken ⟨none, []⟩).1 =
        .ok (some ⟨"Bearer", "abc"⟩) ∧
      ((challengingClient ⟨200, [], .ok "abc", ⟨""⟩⟩).getToken ⟨none, []⟩).2.token =
        some ⟨"Bearer", "abc"⟩ :=
  have h : ((challengingClient ⟨200, [], .ok "abc", ⟨""⟩⟩).getToken ⟨none, []⟩).1 =
      .ok (some ⟨"Bearer", "abc"⟩) := rfl
  ⟨h, (getToken_ok _ _ h).1⟩

/-- After a successful `GetToken`, the next `GetToken` returns the same token from the cache and
sends nothing exactly when that token has a value: after no token (a `2xx` probe and no basic
auth) or a bearer token with an empty value, it goes to the server again. -/
theorem getToken_next_cached (c : NotaryClient) (s : TokenState) {token : Option Token}
    (h : (c.getToken s).1 = .ok token) :
    c.getToken (c.getToken s).2 = (.ok token, (c.getToken s).2) ↔
      ∃ t, token = some t ∧ t.value ≠ "" := by
  obtain ⟨htok, htype⟩ := c.getToken_ok_token h
  rw [← htok, getToken_eq_cached_iff, htok]
  exact ⟨fun ⟨t, ht, _, hv⟩ => ⟨t, ht, hv⟩, fun ⟨t, ht, hv⟩ => ⟨t, ht, htype t ht, hv⟩⟩

/-- Once the realm has given the bearer token `abc`, the next call returns it from the cache. -/
theorem getToken_next_cached_bearer :
    ((challengingClient ⟨200, [], .ok "abc", ⟨""⟩⟩).getToken ⟨none, []⟩).1 =
        .ok (some ⟨"Bearer", "abc"⟩) ∧
      (challengingClient ⟨200, [], .ok "abc", ⟨""⟩⟩).getToken
          ((challengingClient ⟨200, [], .ok "abc", ⟨""⟩⟩).getToken ⟨none, []⟩).2 =
        (.ok (some ⟨"Bearer", "abc"⟩),
          ((challengingClient ⟨200, [], .ok "abc", ⟨""⟩⟩).getToken ⟨none, []⟩).2) :=
  have h : ((challengingClient ⟨200, [], .ok "abc", ⟨""⟩⟩).getToken ⟨none, []⟩).1 =
      .ok (some ⟨"Bearer", "abc"⟩) := rfl
  ⟨h, (getToken_next_cached _ _ h).2 ⟨_, rfl, by decide⟩⟩

end ImageValidatingWebhook.Trust
