import EspNetwork.Base.History
import EspNetwork.Base.Schedule
import EspNetwork.Proxy.Dial

/-!
# Sessions of the web interface

`SessionAuth` of `ctrl/api/auth.go` in the chain of handlers that `ctrl/main.go` builds around the
routes of `ctrl/api/api.go` when `-auth` is given. Requests are handled by goroutines of their own:
the decision of the middleware is one step, and what the route does to the session is another one.
-/

namespace EspNetwork.Api.Auth

open Serial (Byte Bytes)
open Proxy (ascii)
open Schedule (exec Obeys)
open History (Since Guarded)

/-! ## Requests -/

/-- What is read of an `http.Request`. The segments are those of the URL's path, decoded; `cookie`
is the session cookie and `form` holds user name and password, unless the body cannot be parsed. -/
structure Request where
  method : Bytes
  segments : List Bytes
  cookie : Option Bytes
  form : Option (Bytes × Bytes)
  deriving DecidableEq

/-- `r.URL.Path`. -/
def Request.path (r : Request) : Bytes := (r.segments.map fun s => 0x2F :: s).flatten

/-- What the mux dispatches to; `fallback` is the file server, and the mux's own redirects. -/
inductive Route where
  | ping | getDevInfo | reset | deviceStatus | ledSet | ledGet
  | wifiSetConfig | wifiGetConfig | wifiConnect | wifiDisconnect | wifiGetStatus | wifiScan
  | wifiSetHostname | wifiGetHostname
  | login | logout
  | fallback
  deriving DecidableEq, Repr

def get : Bytes := ascii "GET"
def post : Bytes := ascii "POST"

/-- The patterns that `Register` and `main` give to the mux. -/
def patterns : List (Bytes × List Bytes × Route) :=
  [(get, [ascii "api", ascii "ping"], .ping),
   (get, [ascii "api", ascii "info"], .getDevInfo),
   (post, [ascii "api", ascii "reset"], .reset),
   (get, [ascii "api", ascii "status"], .deviceStatus),
   (post, [ascii "api", ascii "led"], .ledSet),
   (get, [ascii "api", ascii "led"], .ledGet),
   (post, [ascii "api", ascii "wifi", ascii "config"], .wifiSetConfig),
   (get, [ascii "api", ascii "wifi", ascii "config"], .wifiGetConfig),
   (post, [ascii "api", ascii "wifi", ascii "connect"], .wifiConnect),
   (post, [ascii "api", ascii "wifi", ascii "disconnect"], .wifiDisconnect),
   (get, [ascii "api", ascii "wifi", ascii "status"], .wifiGetStatus),
   (get, [ascii "api", ascii "wifi", ascii "scan"], .wifiScan),
   (post, [ascii "api", ascii "wifi", ascii "hostname"], .wifiSetHostname),
   (get, [ascii "api", ascii "wifi", ascii "hostname"], .wifiGetHostname),
   (get, [ascii "login"], .login),
   (post, [ascii "login"], .login),
   (post, [ascii "api", ascii "logout"], .logout)]

/-- A pattern for GET matches HEAD as well. -/
def mux (r : Request) : Route :=
  match patterns.find? fun (method, segments, _) =>
      segments = r.segments ∧ (method = r.method ∨ method = get ∧ r.method = ascii "HEAD") with
  | some (_, _, route) => route
  | none => .fallback

inductive Response where
  | noContent
  | unauthorized
  | badRequest
  /-- With the session cookie that is set, if any. -/
  | redirect (location : Bytes) (cookie : Option Bytes)
  /-- What the route itself answers. -/
  | served (route : Route)
  deriving DecidableEq, Repr

/-! ## `SessionAuth` -/

structure SessionAuth where
  user : Bytes
  pass : Bytes
  token : Bytes
  deriving DecidableEq

/-- `hex.EncodeToString` of 16 random bytes. -/
def newToken (random : Vector Byte 16) : Bytes :=
  (random.toList.map fun b => (Nat.toDigits 16 (256 + b.toNat)).tail.map
    fun c => UInt8.ofNat c.toNat).flatten

def isAPIPath (path : Bytes) : Bool := 4 ≤ path.length ∧ path.take 4 = ascii "/api"

/-- Where a request is. -/
inductive Pc where
  | arrived
  | routed (route : Route)
  | answered (response : Response)
  deriving DecidableEq, Repr

/-- The pages that can be seen without a session. -/
def Open (r : Request) : Prop := r.path = ascii "/login" ∨ r.path = ascii "/login.html"

instance (r : Request) : Decidable (Open r) := inferInstanceAs (Decidable (_ ∨ _))

/-- `Middleware`. -/
def SessionAuth.middleware (sa : SessionAuth) (r : Request) : Pc :=
  if Open r then .routed (mux r)
  else if r.cookie ≠ some sa.token then
    if isAPIPath r.path then .answered .unauthorized
    else .answered (.redirect (ascii "/login") none)
  else .routed (mux r)

/-- `WithCORS` around the middleware. -/
def SessionAuth.handler (sa : SessionAuth) (r : Request) : Pc :=
  if r.method = ascii "OPTIONS" then .answered .noContent else sa.middleware r

def SessionAuth.handleLogin (sa : SessionAuth) (r : Request) : Response :=
  if r.method ≠ post then .redirect (ascii "/login.html") none
  else match r.form with
    | none => .badRequest
    | some (u, p) =>
      if u ≠ sa.user ∨ p ≠ sa.pass then .redirect (ascii "/login.html?error=1") none
      else .redirect (ascii "/") (some sa.token)

def SessionAuth.handleLogout (sa : SessionAuth) (random : Vector Byte 16) :
    SessionAuth × Response :=
  ({ sa with token := newToken random }, .redirect (ascii "/login") (some []))

/-! ## The server -/

/-- What happens to the `i`-th request. -/
inductive Event where
  /-- The middleware has let it through, or not. -/
  | checked (i : ℕ) (r : Request) (passed : Bool)
  /-- `HandleLogin` has set the cookie. -/
  | loggedIn (r : Request) (cookie : Bytes)
  /-- Another route has run. -/
  | ran (i : ℕ) (r : Request) (route : Route)
  deriving DecidableEq

/-- The requests so far and, for the record, what has happened and the tokens there have been. -/
structure Site where
  auth : SessionAuth
  requests : List (Request × Pc)
  log : List Event
  tokens : List Bytes
  deriving DecidableEq

inductive Action where
  | arrive (r : Request)
  /-- The middleware decides. -/
  | check (i : ℕ)
  /-- The route is run; a logout uses the random bytes. -/
  | run (i : ℕ) (random : Vector Byte 16)
  deriving DecidableEq

namespace Site

/-- `NewSessionAuth` and a server without requests. -/
def start (user pass : Bytes) (random : Vector Byte 16) : Site where
  auth := ⟨user, pass, newToken random⟩
  requests := []
  log := []
  tokens := [newToken random]

def setRequest (s : Site) (i : ℕ) (r : Request) (pc : Pc) : Site :=
  { s with requests := s.requests.set i (r, pc) }

def record (s : Site) (e : Event) : Site := { s with log := s.log ++ [e] }

def routed : Pc → Bool
  | .routed _ => true
  | _ => false

def runRoute (s : Site) (i : ℕ) (r : Request) (random : Vector Byte 16) : Route → Site
  | .login =>
    let response := s.auth.handleLogin r
    match response with
    | .redirect _ (some cookie) => (s.setRequest i r (.answered response)).record (.loggedIn r cookie)
    | _ => s.setRequest i r (.answered response)
  | .logout =>
    let (auth, response) := s.auth.handleLogout random
    { (s.setRequest i r (.answered response)).record (.ran i r .logout) with
      auth, tokens := s.tokens ++ [auth.token] }
  | route => (s.setRequest i r (.answered (.served route))).record (.ran i r route)

def step (s : Site) : Action → Option Site
  | .arrive r => some { s with requests := s.requests ++ [(r, .arrived)] }
  | .check i =>
    match s.requests[i]? with
    | some (r, .arrived) =>
      let pc := s.auth.handler r
      some ((s.setRequest i r pc).record (.checked i r (routed pc)))
    | _ => none
  | .run i random =>
    match s.requests[i]? with
    | some (r, .routed route) => some (s.runRoute i r random route)
    | _ => none

/-! ## Steps -/

section Steps

variable {s s' : Site} {a : Action}

/-- One constructor for each thing a step can do. -/
inductive Steps (s : Site) : Action → Site → Prop where
  | arrive {r : Request} : Steps s (.arrive r) { s with requests := s.requests ++ [(r, .arrived)] }
  | check {i : ℕ} {r : Request} (request : s.requests[i]? = some (r, .arrived)) :
    Steps s (.check i)
      ((s.setRequest i r (s.auth.handler r)).record (.checked i r (routed (s.auth.handler r))))
  | login {i : ℕ} {random : Vector Byte 16} {r : Request} {location cookie : Bytes}
    (request : s.requests[i]? = some (r, .routed .login))
    (granted : s.auth.handleLogin r = .redirect location (some cookie)) :
    Steps s (.run i random)
      ((s.setRequest i r (.answered (.redirect location (some cookie)))).record (.loggedIn r cookie))
  | refuse {i : ℕ} {random : Vector Byte 16} {r : Request} {response : Response}
    (request : s.requests[i]? = some (r, .routed .login)) :
    Steps s (.run i random) (s.setRequest i r (.answered response))
  | logout {i : ℕ} {random : Vector Byte 16} {r : Request} {response : Response}
    (request : s.requests[i]? = some (r, .routed .logout)) :
    Steps s (.run i random)
      { (s.setRequest i r (.answered response)).record (.ran i r .logout) with
        auth := { s.auth with token := newToken random }
        tokens := s.tokens ++ [newToken random] }
  | serve {i : ℕ} {random : Vector Byte 16} {r : Request} {route : Route}
    (request : s.requests[i]? = some (r, .routed route)) (login : route ≠ .login)
    (logout : route ≠ .logout) :
    Steps s (.run i random) ((s.setRequest i r (.answered (.served route))).record (.ran i r route))

theorem step_steps (h : s.step a = some s') : s.Steps a s' := by
  cases a with
  | arrive r =>
    cases h
    exact .arrive
  | check i =>
    simp only [step] at h
    split at h
    case h_1 r request =>
      cases h
      exact .check request
    case h_2 => cases h
  | run i random =>
    simp only [step] at h
    split at h
    case h_1 r route request =>
      obtain rfl := Option.some.inj h
      cases route with
      | login =>
        simp only [runRoute]
        split
        case h_1 location cookie granted =>
          rw [granted]
          exact .login request granted
        case h_2 => exact .refuse request
      | logout => exact .logout request
      | _ => exact .serve request (by simp) (by simp)
    case h_2 => cases h

end Steps

end Site

/-! ## Who gets through -/

/-- A request that only the session cookie lets through. -/
def Protected (r : Request) : Prop := ¬ Open r ∧ r.method ≠ ascii "OPTIONS"

instance (r : Request) : Decidable (Protected r) := inferInstanceAs (Decidable (_ ∧ _))

/-- The route that a request takes once it was let through. -/
def Takes (r : Request) (route : Route) : Prop := route = mux r ∧ r.method ≠ ascii "OPTIONS"

/-- All routes but the login page are behind the middleware. -/
theorem protected_of_mux {r : Request} (login : mux r ≠ .login) (fallback : mux r ≠ .fallback) :
    Protected r := by
  have closed : ∀ p ∈ patterns, p.2.2 ≠ .login →
      ((p.2.1.map fun s => 0x2F :: s).flatten ≠ ascii "/login" ∧
        (p.2.1.map fun s => 0x2F :: s).flatten ≠ ascii "/login.html") ∧
      p.1 ≠ ascii "OPTIONS" := by decide +kernel
  unfold mux at login fallback
  generalize found : patterns.find? _ = pattern at login fallback
  cases pattern with
  | none => exact absurd rfl fallback
  | some pattern =>
    have matched := List.find?_some found
    simp only [decide_eq_true_eq] at matched
    obtain ⟨⟨page, html⟩, options⟩ := closed _ (List.mem_of_find?_eq_some found) login
    obtain ⟨segments, method⟩ := matched
    rw [segments] at page html
    refine ⟨not_or.mpr ⟨page, html⟩, ?_⟩
    obtain same | ⟨-, head⟩ := method
    · exact same ▸ options
    · exact head ▸ by decide

section Run

variable (user pass : Bytes)

/-- A login with the right user and password has set this cookie. -/
def GivenOut (cookie : Bytes) (e : Event) : Prop :=
  ∃ r, e = .loggedIn r cookie ∧ r.method = post ∧ r.form = some (user, pass)

def LoggedOut (e : Event) : Prop := ∃ i r, e = .ran i r .logout

/-- The cookie of the request was given out, and nobody has logged out since. -/
def HasSession (r : Request) (h : List Event) : Prop :=
  ∃ cookie, r.cookie = some cookie ∧ Since (GivenOut user pass cookie) LoggedOut h

def Issued (h : List Event) (cookie : Bytes) : Prop := ∃ r, Event.loggedIn r cookie ∈ h

/-- Tokens are not guessed: a request that shows one has been given it, and a new one is not among
the cookies that were shown before it was made. -/
def Unguessed (s : Site) : Action → Prop
  | .arrive r => ∀ cookie, r.cookie = some cookie → Issued s.log cookie ∨ cookie ∉ s.tokens
  | .check _ => True
  | .run i random => ∀ r, s.requests[i]? = some (r, .routed .logout) →
    newToken random ∉ s.tokens ∧ ∀ q ∈ s.requests, q.1.cookie ≠ some (newToken random)

def gives (cookie : Bytes) : Event → Bool
  | .loggedIn _ c => c = cookie
  | _ => false

instance (h : List Event) (cookie : Bytes) : Decidable (Issued h cookie) :=
  decidable_of_iff (h.any (gives cookie) = true) (by
    rw [List.any_eq_true]
    constructor
    · rintro ⟨e, mem, given⟩
      cases e with
      | loggedIn r c =>
        obtain rfl : c = cookie := by simpa [gives] using given
        exact ⟨r, mem⟩
      | checked | ran => simp [gives] at given
    · rintro ⟨r, mem⟩
      exact ⟨_, mem, by simp [gives]⟩)

instance (s : Site) (a : Action) : Decidable (Unguessed s a) :=
  match a with
  | .arrive r =>
    inferInstanceAs (Decidable (∀ cookie ∈ r.cookie, Issued s.log cookie ∨ cookie ∉ s.tokens))
  | .check _ => .isTrue trivial
  | .run i random => decidable_of_iff (s.requests[i]?.map Prod.snd = some (.routed .logout) →
      newToken random ∉ s.tokens ∧ ∀ q ∈ s.requests, q.1.cookie ≠ some (newToken random)) (by
    constructor
    · intro fresh r request
      exact fresh (by simp [request])
    · intro fresh routed
      obtain ⟨⟨r, pc⟩, request, rfl⟩ := Option.map_eq_some_iff.mp routed
      exact fresh r request)

structure Inv (s : Site) : Prop where
  credentials : s.auth.user = user ∧ s.auth.pass = pass
  token : s.auth.token ∈ s.tokens
  issued : ∀ cookie, Issued s.log cookie → cookie ∈ s.tokens
  /-- Only the current token has been given out since the last logout. -/
  current : ∀ cookie, Since (GivenOut user pass cookie) LoggedOut s.log → cookie = s.auth.token
  known : Issued s.log s.auth.token → Since (GivenOut user pass s.auth.token) LoggedOut s.log
  cookies : ∀ q ∈ s.requests, ∀ cookie, q.1.cookie = some cookie →
    Issued s.log cookie ∨ cookie ∉ s.tokens
  routes : ∀ i r route, s.requests[i]? = some (r, .routed route) →
    Takes r route ∧ .checked i r true ∈ s.log
  checked : ∀ i r passed, Protected r →
    Guarded (· = .checked i r passed) (fun h => passed = true ↔ HasSession user pass r h) s.log
  ran : ∀ i r route,
    Guarded (· = .ran i r route)
      (fun h => Takes r route ∧ route ≠ .login ∧ .checked i r true ∈ h) s.log

variable {user pass} {s s' : Site} {a : Action}

theorem inv_start (random : Vector Byte 16) : Inv user pass (.start user pass random) where
  credentials := ⟨rfl, rfl⟩
  token := List.mem_singleton_self _
  issued := by simp [Site.start, Issued]
  current := by
    rintro cookie ⟨before, e, after, split, -⟩
    simp [Site.start] at split
  known := by simp [Site.start, Issued]
  cookies := by simp [Site.start]
  routes := by simp [Site.start]
  checked _ _ _ _ := History.guarded_nil
  ran _ _ _ := History.guarded_nil

theorem Issued.mono {h : List Event} {cookie : Bytes} (issued : Issued h cookie) (e : Event) :
    Issued (h ++ [e]) cookie := by
  obtain ⟨r, mem⟩ := issued
  exact ⟨r, List.mem_append_left _ mem⟩

/-- Only a login gives a cookie out. -/
theorem issued_concat {h : List Event} {e : Event} {cookie : Bytes}
    (other : ∀ r, e ≠ .loggedIn r cookie) : Issued (h ++ [e]) cookie ↔ Issued h cookie := by
  constructor
  · rintro ⟨r, mem⟩
    rcases List.mem_append.mp mem with old | new
    · exact ⟨r, old⟩
    · exact absurd (List.mem_singleton.mp new).symm (other r)
  · exact fun issued => issued.mono e

/-- A protected request passes exactly when it shows the current token. -/
theorem Inv.passes_iff (inv : Inv user pass s) {r : Request} {pc : Pc} (mem : (r, pc) ∈ s.requests)
    (guarded : Protected r) :
    Site.routed (s.auth.handler r) = true ↔ HasSession user pass r s.log := by
  have shows : Site.routed (s.auth.handler r) = true ↔ r.cookie = some s.auth.token := by
    unfold SessionAuth.handler SessionAuth.middleware
    rw [if_neg guarded.2, if_neg guarded.1]
    split_ifs <;> simp_all [Site.routed]
  rw [shows]
  constructor
  · intro cookie
    refine ⟨_, cookie, inv.known ?_⟩
    exact (inv.cookies _ mem _ cookie).resolve_right fun fresh => fresh inv.token
  · rintro ⟨cookie, shown, since⟩
    rw [shown, inv.current cookie since]

theorem handleLogin_grants {sa : SessionAuth} {r : Request} {location cookie : Bytes}
    (granted : sa.handleLogin r = .redirect location (some cookie)) :
    cookie = sa.token ∧ GivenOut sa.user sa.pass cookie (.loggedIn r cookie) := by
  unfold SessionAuth.handleLogin at granted
  by_cases method : r.method = post
  swap
  · rw [if_pos method] at granted
    simp at granted
  rw [if_neg (not_not.mpr method)] at granted
  cases form : r.form with
  | none => simp [form] at granted
  | some credentials =>
    obtain ⟨u, p⟩ := credentials
    simp only [form] at granted
    by_cases wrong : u ≠ sa.user ∨ p ≠ sa.pass
    · rw [if_pos wrong] at granted
      simp at granted
    rw [if_neg wrong] at granted
    obtain ⟨-, same⟩ := Response.redirect.inj granted
    obtain ⟨rfl, rfl⟩ : u = sa.user ∧ p = sa.pass := by tauto
    exact ⟨(Option.some.inj same).symm, r, rfl, method, form⟩

/-! What a request that moves on leaves alone. -/

theorem Inv.cookies_set (inv : Inv user pass s) {i : ℕ} {r : Request} {pc pc' : Pc}
    (request : s.requests[i]? = some (r, pc)) :
    ∀ q ∈ s.requests.set i (r, pc'), ∀ cookie, q.1.cookie = some cookie →
      Issued s.log cookie ∨ cookie ∉ s.tokens := by
  intro q mem cookie shown
  rcases List.mem_or_eq_of_mem_set mem with old | rfl
  · exact inv.cookies q old cookie shown
  · exact inv.cookies _ (List.mem_of_getElem? request) cookie shown

theorem Inv.routes_set (inv : Inv user pass s) {i : ℕ} {r : Request} {pc : Pc} {e : Event}
    (next : ∀ route, pc = .routed route → Takes r route ∧ .checked i r true ∈ s.log ++ [e]) :
    ∀ j q route, (s.requests.set i (r, pc))[j]? = some (q, .routed route) →
      Takes q route ∧ .checked j q true ∈ s.log ++ [e] := by
  intro j q route here
  rw [List.getElem?_set] at here
  split_ifs at here with same inside
  · subst same
    obtain ⟨rfl, routed⟩ := Prod.mk.inj (Option.some.inj here)
    exact next route routed
  · obtain ⟨takes, mem⟩ := inv.routes j q route here
    exact ⟨takes, List.mem_append_left _ mem⟩

/-- A request is routed by the mux once the middleware has let it through. -/
theorem routed_handler {sa : SessionAuth} {r : Request} {route : Route}
    (routed : sa.handler r = .routed route) : Takes r route := by
  unfold SessionAuth.handler SessionAuth.middleware at routed
  split_ifs at routed with options
  · exact ⟨(Pc.routed.inj routed).symm, options⟩
  · exact ⟨(Pc.routed.inj routed).symm, options⟩

/-- A request that moves on without a login or a logout. -/
theorem Inv.quiet (inv : Inv user pass s) {i : ℕ} {r : Request} {pc pc' : Pc} {e : Event}
    (request : s.requests[i]? = some (r, pc)) (login : ∀ q cookie, e ≠ .loggedIn q cookie)
    (logout : ¬ LoggedOut e)
    (next : ∀ route, pc' = .routed route → Takes r route ∧ .checked i r true ∈ s.log ++ [e])
    (checked : ∀ j q passed, Protected q → e = .checked j q passed →
      (passed = true ↔ HasSession user pass q s.log))
    (ran : ∀ j q route, e = .ran j q route →
      Takes q route ∧ route ≠ .login ∧ .checked j q true ∈ s.log) :
    Inv user pass ((s.setRequest i r pc').record e) := by
  have sessions : ∀ cookie, Since (GivenOut user pass cookie) LoggedOut (s.log ++ [e]) ↔
      Since (GivenOut user pass cookie) LoggedOut s.log := by
    intro cookie
    rw [History.since_concat, and_iff_left logout]
    rintro ⟨q, same, -⟩
    exact login q cookie same
  have issues : ∀ cookie, Issued (s.log ++ [e]) cookie ↔ Issued s.log cookie :=
    fun cookie => issued_concat fun q => login q cookie
  exact {
    credentials := inv.credentials
    token := inv.token
    issued := fun cookie h => inv.issued cookie ((issues cookie).mp h)
    current := fun cookie h => inv.current cookie ((sessions cookie).mp h)
    known := fun h => (sessions _).mpr (inv.known ((issues _).mp h))
    cookies := fun q mem cookie shown =>
      (inv.cookies_set request q mem cookie shown).imp_left (issues cookie).mpr
    routes := inv.routes_set next
    checked := fun j q passed guarded => History.guarded_concat.mpr
      ⟨inv.checked j q passed guarded, checked j q passed guarded⟩
    ran := fun j q route => History.guarded_concat.mpr ⟨inv.ran j q route, ran j q route⟩ }

theorem Inv.step (inv : Inv user pass s) (allowed : Unguessed s a) (h : s.Steps a s') :
    Inv user pass s' := by
  cases h with
  | @arrive r =>
    exact {
      inv with
      cookies := by
        intro q mem
        rcases List.mem_append.mp mem with old | new
        · exact inv.cookies q old
        · obtain rfl := List.mem_singleton.mp new
          exact allowed
      routes := by
        intro j q route here
        refine inv.routes j q route ?_
        rw [List.getElem?_append] at here
        split_ifs at here with inside
        · exact here
        · rw [List.getElem?_singleton] at here
          split_ifs at here
          simp at here }
  | @check i r request =>
    refine inv.quiet request (by simp) (by simp [LoggedOut]) (fun route routed => ?_) ?_ (by simp)
    · refine ⟨routed_handler routed, ?_⟩
      simp [routed, Site.routed]
    · rintro j q passed guarded ⟨⟩
      exact inv.passes_iff (List.mem_of_getElem? request) guarded
  | @login i random r location cookie request granted =>
    obtain ⟨rfl, given⟩ := handleLogin_grants granted
    rw [inv.credentials.1, inv.credentials.2] at given
    exact {
      credentials := inv.credentials
      token := inv.token
      issued := by
        rintro cookie ⟨q, mem⟩
        rcases List.mem_append.mp mem with old | new
        · exact inv.issued cookie ⟨q, old⟩
        · cases List.mem_singleton.mp new
          exact inv.token
      current := by
        intro cookie since
        by_contra other
        have apart : ¬ GivenOut user pass cookie (.loggedIn r s.auth.token) := by
          rintro ⟨q, ⟨⟩, -⟩
          exact other rfl
        exact other (inv.current cookie ((History.since_concat apart).mp since).1)
      known := fun _ => History.since_of_start given
      cookies := fun q mem cookie shown =>
        (inv.cookies_set request q mem cookie shown).imp_left fun issued => issued.mono _
      routes := inv.routes_set (by simp)
      checked := fun j q passed guarded => History.guarded_concat.mpr
        ⟨inv.checked j q passed guarded, by simp⟩
      ran := fun j q route => History.guarded_concat.mpr ⟨inv.ran j q route, by simp⟩ }
  | @refuse i random r response request =>
    exact {
      inv with
      cookies := inv.cookies_set request
      routes := by
        intro j q route here
        simp only [Site.setRequest, List.getElem?_set] at here
        split_ifs at here
        · simp at here
        · exact inv.routes j q route here }
  | @logout i random r response request =>
    obtain ⟨fresh, unseen⟩ := allowed r request
    have issues : ∀ cookie, Issued (s.log ++ [.ran i r .logout]) cookie ↔ Issued s.log cookie :=
      fun cookie => issued_concat (by simp)
    exact {
      credentials := inv.credentials
      token := by simp
      issued := fun cookie h => List.mem_append_left _ (inv.issued cookie ((issues cookie).mp h))
      current := by
        intro cookie since
        have apart : ¬ GivenOut user pass cookie (.ran i r .logout) := by simp [GivenOut]
        exact absurd ⟨i, r, rfl⟩ ((History.since_concat apart).mp since).2
      known := fun h => absurd (inv.issued _ ((issues _).mp h)) fresh
      cookies := by
        intro q mem cookie shown
        refine (inv.cookies_set request q mem cookie shown).imp (issues cookie).mpr fun unknown => ?_
        have other : cookie ≠ newToken random := by
          rintro rfl
          rcases List.mem_or_eq_of_mem_set mem with old | rfl
          · exact unseen q old shown
          · exact unseen _ (List.mem_of_getElem? request) shown
        simp [unknown, other]
      routes := inv.routes_set (by simp)
      checked := fun j q passed guarded => History.guarded_concat.mpr
        ⟨inv.checked j q passed guarded, by simp⟩
      ran := fun j q route => History.guarded_concat.mpr
        ⟨inv.ran j q route, by
          rintro ⟨⟩
          obtain ⟨takes, passed⟩ := inv.routes i r .logout request
          exact ⟨takes, by simp, passed⟩⟩ }
  | @serve i random r route request login logout =>
    refine inv.quiet request (by simp) (by simp [LoggedOut, logout]) (by simp) (by simp) ?_
    rintro j q _ ⟨⟩
    obtain ⟨takes, passed⟩ := inv.routes i r route request
    exact ⟨takes, login, passed⟩

/-- **Only a session gets past the login page.** In every run in which tokens are not guessed, the
middleware lets a protected request through exactly when its cookie was given out by a login with the
right user and password and nobody has logged out since. Every command, logout and file is served
behind such a decision about that very request, but for what the file server makes of the login
page. -/
theorem sessions_guard_api {random : Vector Byte 16} {as : List Action}
    (run : exec Site.step (.start user pass random) as = some s)
    (unguessed : Obeys Site.step Unguessed (.start user pass random) as) :
    (∀ i r passed, Protected r → Guarded (· = .checked i r passed)
      (fun h => passed = true ↔ HasSession user pass r h) s.log) ∧
    ∀ i r route, Guarded (· = .ran i r route)
      (fun h => ∃ before after, h = before ++ .checked i r true :: after ∧
        (HasSession user pass r before ∨ route = .fallback ∧ Open r)) s.log := by
  have inv : Inv user pass s := Schedule.exec_invariant_of_obeys (Inv user pass)
    (fun s a t inv allowed taken => inv.step allowed (Site.step_steps taken)) (inv_start random)
    unguessed run
  refine ⟨inv.checked, fun i r route h e after split same => ?_⟩
  subst same
  obtain ⟨⟨rfl, options⟩, login, passed⟩ := inv.ran i r route h _ after split rfl
  obtain ⟨before, behind, rfl⟩ := List.append_of_mem passed
  refine ⟨before, behind, rfl, ?_⟩
  by_cases page : Open r
  · refine .inr ⟨?_, page⟩
    by_contra api
    exact (protected_of_mux login api).1 page
  · rw [List.append_assoc, List.cons_append] at split
    exact .inl ((inv.checked i r true ⟨page, options⟩ before _ _ split rfl).mp rfl)

end Run

/-! ## A visit -/

def zeros : Vector Byte 16 := .replicate 16 0
def ones : Vector Byte 16 := .replicate 16 1

def pingWith (cookie : Bytes) : Request := ⟨get, [ascii "api", ascii "ping"], some cookie, none⟩

def pageWith (cookie : Bytes) : Request := ⟨get, [[]], some cookie, none⟩

/-- Somebody logs in, pings the device, gets the page, logs out and tries the old cookie once
more. -/
def visit : List Action :=
  [.arrive ⟨post, [ascii "login"], none, some (ascii "user", ascii "pass")⟩, .check 0, .run 0 zeros,
   .arrive (pingWith (newToken zeros)), .arrive (pageWith (newToken zeros)), .check 2, .check 1,
   .run 1 zeros, .run 2 zeros,
   .arrive ⟨post, [ascii "api", ascii "logout"], some (newToken zeros), none⟩, .check 3, .run 3 ones,
   .arrive (pingWith (newToken zeros)), .check 4]

def visited : Site :=
  (exec Site.step (.start (ascii "user") (ascii "pass") zeros) visit).getD
    (.start (ascii "user") (ascii "pass") zeros)

theorem sessions_guard_api_visit :
    visited.log.getLast? = some (.checked 4 (pingWith (newToken zeros)) false) ∧
      .ran 1 (pingWith (newToken zeros)) .ping ∈ visited.log ∧
      .ran 2 (pageWith (newToken zeros)) .fallback ∈ visited.log ∧
      (∀ i r passed, Protected r → Guarded (· = .checked i r passed)
        (fun h => passed = true ↔ HasSession (ascii "user") (ascii "pass") r h) visited.log) ∧
      ∀ i r route, Guarded (· = .ran i r route)
        (fun h => ∃ before after, h = before ++ .checked i r true :: after ∧
          (HasSession (ascii "user") (ascii "pass") r before ∨ route = .fallback ∧ Open r))
        visited.log :=
  ⟨by decide +kernel, by decide +kernel, by decide +kernel,
    @sessions_guard_api (ascii "user") (ascii "pass") visited zeros visit (by decide +kernel)
      (by decide +kernel)⟩

end EspNetwork.Api.Auth
