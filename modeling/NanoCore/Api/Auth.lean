import NanoCore.Api.Routes
import NanoCore.Config
import NanoCore.Foundation.UrlSplit

/-!
The key that protects the routes under `/api`: `app/api/auth.py`.  Starlette
routes on the path of the ASGI scope, and makes `request.url` by parsing the
scheme, the Host header and that path again.
-/

namespace NanoCore.Api.Auth

open NanoCore.Api.Routes
open NanoCore.Config
open NanoCore.Foundation.PythonText
open NanoCore.Foundation.UrlSplit

inductive Scheme where
  | http
  | https
  deriving DecidableEq, Repr

def Scheme.text : Scheme → Text
  | .http => "http".toList
  | .https => "https".toList

structure Request where
  method : String
  scheme : Scheme := .http
  host : Text
  path : Text
  queryString : Text := []
  authorization : Option Text := none
  deriving DecidableEq, Repr

/-- The text that `request.url` parses. -/
def Request.url (request : Request) : Text :=
  request.scheme.text ++ "://".toList ++
    (request.host ++ request.path ++
      if request.queryString.isEmpty then [] else '?' :: request.queryString)

def apiPrefix : Text := "/api".toList

def healthPath : Text := "/api/health".toList

inductive Dispatch where
  | callNext
  | response (statusCode : Nat) (detail : Text)
  | raised (e : PyError)
  deriving DecidableEq, Repr

section

variable (u : PyData)

def extractApiKey (request : Request) : Option Text :=
  let authorization := request.authorization.getD []
  let token := strip (authorization.drop 7)
  if "bearer ".toList.isPrefixOf (u.lower authorization) && !token.isEmpty then some token
  else
    match lastQueryValue request.queryString "api_key" with
    | none => none
    | some queryKey => if queryKey.isEmpty then none else some (strip queryKey)

def isPublicApiPath (path : Text) : Bool := path == healthPath || path == healthPath ++ ['/']

def dispatch (settings : Settings) (request : Request) : Dispatch :=
  if request.method = "OPTIONS" then .callNext
  else
    match urlsplit u request.url with
    | .error e => .raised e
    | .ok parsed =>
        if !apiPrefix.isPrefixOf parsed.path || isPublicApiPath parsed.path then .callNext
        else
          let configuredKey := strip settings.apiKey
          if configuredKey.isEmpty then
            if settings.appEnv = "development".toList then .callNext
            else .response 503 "API key is not configured on the server.".toList
          else if extractApiKey u request ≠ some configuredKey then
            .response 401 "Invalid or missing API key.".toList
          else .callNext

def handledBy (settings : Settings) (request : Request) : Option Route :=
  match dispatch u settings request with
  | .callNext => findRoute request.method request.path
  | _ => none

def PresentsKey (settings : Settings) (request : Request) : Prop :=
  extractApiKey u request = some (strip settings.apiKey)

instance (settings : Settings) (request : Request) : Decidable (PresentsKey u settings request) :=
  inferInstanceAs (Decidable (_ = _))

/-- The path that the guard sees is one that it protects. -/
def Protects (path : Text) : Prop := apiPrefix <+: path ∧ isPublicApiPath path = false

/-- The guard compares keys: the configured key is not blank, or its absence
turns requests down. -/
def Enforced (settings : Settings) : Prop :=
  strip settings.apiKey ≠ [] ∨ settings.appEnv ≠ "development".toList

/-- `urlsplit` raises on the network location of the Host header. -/
def HostRefused (host : Text) : Prop :=
  badNetloc u (splitNetloc (withoutRemoved host)).1 = true

instance (host : Text) : Decidable (HostRefused u host) := inferInstanceAs (Decidable (_ = true))

def hostTail (host : Text) : Text := (splitNetloc (withoutRemoved host)).2

/-- The Host header has no delimiter of the URL, or goes on with a protected path
itself. -/
def HostKept (host : Text) : Prop :=
  hostTail host = [] ∨
    (apiPrefix <+: (hostTail host).takeWhile inPath ∧
      ((hostTail host).takeWhile inPath = hostTail host ∨
        isPublicApiPath ((hostTail host).takeWhile inPath) = false))

end

section UrlPath

variable {u : PyData} {settings : Settings} {request : Request} {route : Route}

def seenPath (request : Request) : Text := (withoutRemoved request.path).takeWhile inPath

theorem protects_of_base {base path : Text} (hbase : base <+: path) (hapi : apiPrefix <+: base)
    (hhealth : ¬ base <+: healthPath ++ ['/']) : Protects path := by
  refine ⟨hapi.trans hbase, ?_⟩
  rw [isPublicApiPath, Bool.or_eq_false_iff, beq_eq_false_iff_ne, beq_eq_false_iff_ne]
  constructor
  · rintro rfl
    exact hhealth (hbase.trans (List.prefix_append ..))
  · rintro rfl
    exact hhealth hbase

theorem base_cases : ∀ route ∈ apiRouter, route.endpoint ≠ "health" →
    apiPrefix <+: route.base.toList ∧ ¬ route.base.toList <+: healthPath ++ ['/'] ∧
      route.base.toList.all (fun c => inPath c && !isRemoved c) = true := by
  decide +kernel

theorem base_prefix_seenPath (hroute : findRoute request.method request.path = some route)
    (hhealth : route.endpoint ≠ "health") : route.base.toList <+: seenPath request := by
  obtain ⟨-, -, hbase⟩ := base_cases route (mem_of_findRoute hroute) hhealth
  obtain ⟨rest, hrest⟩ := base_prefix_of_findRoute hroute
  rw [List.all_eq_true] at hbase
  have hclean : withoutRemoved request.path = route.base.toList ++ withoutRemoved rest := by
    have hself : withoutRemoved route.base.toList = route.base.toList :=
      List.filter_eq_self.mpr fun c hc => (Bool.and_eq_true_iff.mp (hbase c hc)).2
    rw [← hrest, withoutRemoved, List.filter_append, ← withoutRemoved, hself, ← withoutRemoved]
  rw [seenPath, hclean, List.takeWhile_append_of_pos fun c hc =>
    (Bool.and_eq_true_iff.mp (hbase c hc)).1]
  exact List.prefix_append ..

theorem protects_seenPath (hroute : findRoute request.method request.path = some route)
    (hhealth : route.endpoint ≠ "health") : Protects (seenPath request) := by
  obtain ⟨hapi, hpublic, -⟩ := base_cases route (mem_of_findRoute hroute) hhealth
  exact protects_of_base (base_prefix_seenPath hroute hhealth) hapi hpublic

/-- The network location is that of the Host header alone, and the path goes on
with what the Host header has left. -/
theorem urlsplit_url (hpath : apiPrefix <+: seenPath request) :
    (urlsplit u request.url).map SplitResult.path =
      if HostRefused u request.host then .error .valueError
      else .ok ((hostTail request.host ++ seenPath request).takeWhile inPath) := by
  obtain ⟨path, hslash⟩ : ∃ path, withoutRemoved request.path = '/' :: path := by
    obtain ⟨rest, hrest⟩ := hpath.trans (List.takeWhile_prefix inPath)
    exact ⟨_, hrest.symm⟩
  have hquery : ∃ query, withoutRemoved (request.host ++ request.path ++
      if request.queryString.isEmpty then [] else '?' :: request.queryString) =
        withoutRemoved request.host ++ '/' :: (path ++ query) ∧ query.takeWhile inPath = [] := by
    simp only [withoutRemoved, List.filter_append] at hslash ⊢
    rw [hslash, List.append_assoc]
    refine ⟨_, rfl, ?_⟩
    split <;> rfl
  obtain ⟨query, hrest, hquery⟩ := hquery
  have hscheme : request.scheme.text = "http".toList ∨ request.scheme.text = "https".toList := by
    cases request.scheme
    · exact Or.inl rfl
    · exact Or.inr rfl
  rw [Request.url, urlsplit_web u hscheme, hrest, splitNetloc_append rfl]
  by_cases hrefused : HostRefused u request.host
  · have hbad : badNetloc u (splitNetloc (withoutRemoved request.host)).1 = true := hrefused
    rw [if_pos hbad, if_pos hrefused]
    rfl
  · have hgood : ¬ badNetloc u (splitNetloc (withoutRemoved request.host)).1 = true := hrefused
    rw [if_neg hgood, if_neg hrefused, Except.map, splitPath_path, seenPath, hslash,
      takeWhile_append_takeWhile, ← List.cons_append, ← List.append_assoc,
      takeWhile_append_of_neg hquery, hostTail]

theorem isPublicApiPath_eq_false {path : Text} : isPublicApiPath path = false ↔
    path ≠ healthPath ∧ path ≠ healthPath ++ ['/'] := by
  rw [isPublicApiPath, Bool.or_eq_false_iff, beq_eq_false_iff_ne, beq_eq_false_iff_ne]

theorem apiPrefix_prefix_append {tail seen : Text} (htail : tail ≠ [])
    (hseen : apiPrefix <+: seen) : apiPrefix <+: tail ++ seen ↔ apiPrefix <+: tail := by
  obtain ⟨rest, rfl⟩ := hseen
  rcases tail with _ | ⟨c, _ | ⟨a, _ | ⟨b, _ | ⟨d, tail⟩⟩⟩⟩
  · exact absurd rfl htail
  all_goals simp [apiPrefix]

theorem isPublicApiPath_append {tail seen : Text} (htail : apiPrefix <+: tail)
    (hseen : apiPrefix <+: seen) : isPublicApiPath (tail ++ seen) = false := by
  obtain ⟨between, rfl⟩ := htail
  obtain ⟨rest, rfl⟩ := hseen
  have hinfix : ['/', 'a'] <:+: between ++ (apiPrefix ++ rest) :=
    ⟨between, 'p' :: 'i' :: rest, by simp [apiPrefix]⟩
  rw [isPublicApiPath_eq_false, List.append_assoc]
  constructor
  · intro h
    rw [List.append_cancel_left (h : apiPrefix ++ _ = apiPrefix ++ "/health".toList)] at hinfix
    exact absurd hinfix (by decide)
  · intro h
    rw [List.append_cancel_left (h : apiPrefix ++ _ = apiPrefix ++ "/health/".toList)] at hinfix
    exact absurd hinfix (by decide)

theorem protects_append_iff {tail seen : Text} (htail : tail ≠ []) (hseen : apiPrefix <+: seen)
    (hinPath : seen.takeWhile inPath = seen) : Protects ((tail ++ seen).takeWhile inPath) ↔
      apiPrefix <+: tail.takeWhile inPath ∧
        (tail.takeWhile inPath = tail ∨ isPublicApiPath (tail.takeWhile inPath) = false) := by
  rw [List.takeWhile_append, hinPath]
  split
  · rename_i hlength
    have hall : tail.takeWhile inPath = tail := (List.takeWhile_prefix inPath).eq_of_length hlength
    rw [hall, Protects, apiPrefix_prefix_append htail hseen]
    refine and_congr_right fun hapi => ?_
    rw [isPublicApiPath_append hapi hseen]
    exact iff_of_true rfl (Or.inl rfl)
  · rename_i hlength
    have hsome : tail.takeWhile inPath ≠ tail := fun h => hlength (congrArg List.length h)
    rw [Protects, or_iff_right hsome]

theorem hostKept_iff (hroute : findRoute request.method request.path = some route)
    (hhealth : route.endpoint ≠ "health") : HostKept request.host ↔
      Protects ((hostTail request.host ++ seenPath request).takeWhile inPath) := by
  have hseen := protects_seenPath hroute hhealth
  have hinPath : (seenPath request).takeWhile inPath = seenPath request := List.takeWhile_idem ..
  rw [HostKept]
  by_cases htail : hostTail request.host = []
  · rw [htail, List.nil_append, hinPath]
    exact iff_of_true (Or.inl rfl) hseen
  · rw [or_iff_right htail, protects_append_iff htail hseen.1 hinPath]

theorem dispatch_of_urlsplit {parsed : SplitResult} (hmethod : request.method ≠ "OPTIONS")
    (hparsed : urlsplit u request.url = .ok parsed) (hkey : ¬ PresentsKey u settings request) :
    dispatch u settings request = .callNext ↔ ¬ (Enforced settings ∧ Protects parsed.path) := by
  by_cases hprotects : Protects parsed.path
  · have hguarded : (!apiPrefix.isPrefixOf parsed.path || isPublicApiPath parsed.path) = false := by
      rw [Bool.or_eq_false_iff, Bool.not_eq_false', List.isPrefixOf_iff_prefix]
      exact hprotects
    simp only [dispatch, if_neg hmethod, hparsed, hguarded, Bool.false_eq_true, if_false]
    by_cases hblank : strip settings.apiKey = []
    · by_cases henv : settings.appEnv = "development".toList
      · rw [if_pos (List.isEmpty_iff.mpr hblank), if_pos henv]
        exact iff_of_true rfl fun h => h.1.elim (· hblank) (· henv)
      · rw [if_pos (List.isEmpty_iff.mpr hblank), if_neg henv]
        exact iff_of_false nofun fun h => h ⟨Or.inr henv, hprotects⟩
    · have hother : extractApiKey u request ≠ some (strip settings.apiKey) := hkey
      rw [if_neg (mt List.isEmpty_iff.mp hblank), if_pos hother]
      exact iff_of_false nofun fun h => h ⟨Or.inl hblank, hprotects⟩
  · have hopen : (!apiPrefix.isPrefixOf parsed.path || isPublicApiPath parsed.path) = true := by
      rw [← Bool.not_eq_false, Bool.or_eq_false_iff, Bool.not_eq_false', List.isPrefixOf_iff_prefix]
      exact hprotects
    have hopened : dispatch u settings request = .callNext := by
      simp only [dispatch, if_neg hmethod, hparsed, hopen, if_true]
    exact iff_of_true hopened fun h => hprotects h.2

theorem dispatch_eq_callNext_iff (hmethod : request.method ≠ "OPTIONS")
    (hroute : findRoute request.method request.path = some route)
    (hhealth : route.endpoint ≠ "health") (hkey : ¬ PresentsKey u settings request) :
    dispatch u settings request = .callNext ↔
      ¬ (HostRefused u request.host ∨ Enforced settings ∧ HostKept request.host) := by
  have hsplit := urlsplit_url (u := u) (protects_seenPath hroute hhealth).1
  rw [hostKept_iff hroute hhealth]
  by_cases hrefused : HostRefused u request.host
  · rw [if_pos hrefused] at hsplit
    rw [dispatch, if_neg hmethod]
    cases hurl : urlsplit u request.url with
    | error e => exact iff_of_false nofun fun h => h (Or.inl hrefused)
    | ok parsed =>
        rw [hurl] at hsplit
        cases hsplit
  · rw [if_neg hrefused] at hsplit
    cases hurl : urlsplit u request.url with
    | error e =>
        rw [hurl] at hsplit
        cases hsplit
    | ok parsed =>
        rw [hurl] at hsplit
        rw [dispatch_of_urlsplit hmethod hurl hkey, or_iff_right hrefused,
          (Except.ok.inj hsplit : parsed.path = _)]

/-- A protected route runs without the key on the requests whose Host header takes
the path away from the guard and, in development, whenever the key that is set
is blank. -/
theorem handledOnlyWithKey_iff (hmethod : request.method ≠ "OPTIONS")
    (hroute : findRoute request.method request.path = some route)
    (hhealth : route.endpoint ≠ "health") :
    (handledBy u settings request = some route → PresentsKey u settings request) ↔
      PresentsKey u settings request ∨ HostRefused u request.host ∨
        Enforced settings ∧ HostKept request.host := by
  by_cases hkey : PresentsKey u settings request
  · exact iff_of_true (fun _ => hkey) (Or.inl hkey)
  · have hdispatch := dispatch_eq_callNext_iff hmethod hroute hhealth hkey
    rw [or_iff_right hkey, handledBy]
    cases hcalled : dispatch u settings request with
    | callNext =>
        rw [hcalled] at hdispatch
        exact iff_of_false (fun h => hkey (h hroute)) (hdispatch.mp rfl)
    | response statusCode detail =>
        rw [hcalled] at hdispatch
        exact iff_of_true nofun (by_contra fun h => absurd (hdispatch.mpr h) nofun)
    | raised e =>
        rw [hcalled] at hdispatch
        exact iff_of_true nofun (by_contra fun h => absurd (hdispatch.mpr h) nofun)

end UrlPath

def securedSettings : Settings :=
  { appEnv := "production".toList, apiKey := "secret".toList }

def storageRequest (host : String) : Request :=
  { method := "GET", host := host.toList, path := "/api/storage".toList }

def storageRoute : Route :=
  { method := "GET", base := "/api/storage", endpoint := "read_storage_snapshot" }

theorem handledOnlyWithKey_storage :
    (handledBy .ascii securedSettings (storageRequest "nano.local:8080") = some storageRoute →
        PresentsKey .ascii securedSettings (storageRequest "nano.local:8080")) ↔
      PresentsKey .ascii securedSettings (storageRequest "nano.local:8080") ∨
        HostRefused .ascii (storageRequest "nano.local:8080").host ∨
          Enforced securedSettings ∧ HostKept (storageRequest "nano.local:8080").host :=
  handledOnlyWithKey_iff (by decide) (by decide +kernel) (by decide)

theorem not_handledOnlyWithKey_of_host :
    ¬ ∀ (u : PyData) (settings : Settings) (request : Request) (route : Route),
      settings.apiKey ≠ [] → request.method ≠ "OPTIONS" →
      findRoute request.method request.path = some route → route.endpoint ≠ "health" →
      handledBy u settings request = some route → PresentsKey u settings request := by
  intro h
  have hkey := h .ascii securedSettings (storageRequest "nano.local?") storageRoute
    (by decide) (by decide) (by decide +kernel) (by decide) (by decide +kernel)
  exact absurd hkey (by decide +kernel)

end NanoCore.Api.Auth
