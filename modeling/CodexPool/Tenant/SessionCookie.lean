import CodexPool.Proxy.Headers

/-!
# The session cookie

After a login the control plane sets a cookie with the token of the session, and finds it again
among all the cookies that a client sends. The search gives up at the first of these that has no
`=`.
-/

namespace CodexPool

/-- The part of the settings of `TenantAuthService` that cookies depend on. The name is read from
the environment, trimmed, and not blank. -/
structure SessionCookies where
  cookieName : String
  cookieName_trim : Text.trim cookieName = cookieName
  cookieName_ne : cookieName ≠ ""
  cookieSecure : Bool
  tokenTtlSec : Nat

namespace SessionCookies

variable (service : SessionCookies)

/-- The pair that the cookie sets. -/
def pair (token : String) : String := service.cookieName ++ "=" ++ token

end SessionCookies

/-- The name and the value of one cookie, the two parts of `splitn(2, '=')`. -/
def cookieParts (cookie : String) : Option (String × String) :=
  let text := (Text.trim cookie).toList
  if '=' ∈ text then
    some (Text.trim (String.ofList (text.takeWhile (· ≠ '='))),
      Text.trim (String.ofList ((text.dropWhile (· ≠ '=')).drop 1)))
  else none

/-- The loop over the cookies, which a cookie without `=` ends. -/
def findCookie (name : String) : List String → Option String
  | [] => none
  | cookie :: cookies =>
    match cookieParts cookie with
    | none => none
    | some (key, value) => if key = name then some value else findCookie name cookies

def splitCookies (header : String) : List String :=
  (header.toList.splitOn ';').map String.ofList

def SessionCookies.extractCookieToken (service : SessionCookies) (headers : HeaderMap) :
    Option String :=
  ((headers.lookup "cookie").bind headerToStr).bind fun header =>
    findCookie service.cookieName (splitCookies header)

/-! ## Cookies joined by semicolons -/

def joinCookies (cookies : List String) : String :=
  String.ofList ([';'].intercalate (cookies.map String.toList))

theorem splitCookies_joinCookies {cookies : List String} (hne : cookies ≠ [])
    (h : ∀ cookie ∈ cookies, ';' ∉ cookie.toList) :
    splitCookies (joinCookies cookies) = cookies := by
  rw [splitCookies, joinCookies, String.toList_ofList, List.splitOn_intercalate]
  · simp [Function.comp_def]
  · simpa using h
  · simpa using hne

/-! ## The parts of the pair -/

section Parts

theorem not_mem_of_cookieParts {cookie key value : String}
    (h : cookieParts cookie = some (key, value)) : '=' ∉ key.toList := by
  rw [cookieParts] at h
  obtain ⟨-, hparts⟩ := Option.ite_none_right_eq_some.1 h
  obtain ⟨rfl, -⟩ := Prod.mk.inj (Option.some.inj hparts)
  intro hmem
  rw [Text.toList_trim_eq_rdropWhile] at hmem
  have htake := (List.dropWhile_suffix _).subset ((List.rdropWhile_prefix _ _).subset hmem)
  rw [String.toList_ofList] at htake
  simpa using List.mem_takeWhile_imp htake

theorem cookieParts_of_trim {name token cookie : String} (hname : '=' ∉ name.toList)
    (hcookie : Text.trim cookie = name ++ "=" ++ token) :
    cookieParts cookie = some (Text.trim name, Text.trim token) := by
  have htext : (Text.trim cookie).toList = name.toList ++ '=' :: token.toList := by
    rw [hcookie]
    simp
  have hall : ∀ c ∈ name.toList, (c ≠ '=' : Bool) = true := by
    intro c hc
    simpa using fun heq : c = '=' => hname (heq ▸ hc)
  rw [cookieParts]
  simp only [htext]
  rw [if_pos (by simp), List.takeWhile_append_of_pos hall, List.dropWhile_append_of_pos hall]
  simp [String.ofList_toList]

end Parts

/-! ## The search -/

section Search

variable {name token : String}

theorem findCookie_cons_eq_some_iff {cookie : String} (cookies : List String)
    (hother : cookieParts cookie ≠ some (name, token)) :
    findCookie name (cookie :: cookies) = some token ↔
      (∃ key value, cookieParts cookie = some (key, value) ∧ key ≠ name) ∧
        findCookie name cookies = some token := by
  rw [findCookie]
  cases hparts : cookieParts cookie with
  | none => simp
  | some parts =>
      obtain ⟨key, value⟩ := parts
      by_cases hkey : key = name
      · have hvalue : value ≠ token := by
          intro heq
          rw [hparts, hkey, heq] at hother
          exact hother rfl
        simp [hkey, hvalue]
      · simp [hkey]

theorem findCookie_append_eq_some_iff {before : List String} (cookies : List String)
    (hother : ∀ cookie ∈ before, cookieParts cookie ≠ some (name, token)) :
    findCookie name (before ++ cookies) = some token ↔
      (∀ cookie ∈ before, ∃ key value, cookieParts cookie = some (key, value) ∧ key ≠ name) ∧
        findCookie name cookies = some token := by
  induction before with
  | nil => simp
  | cons cookie before ih =>
      rw [List.forall_mem_cons] at hother ⊢
      rw [List.cons_append, findCookie_cons_eq_some_iff _ hother.1, ih hother.2, and_assoc]

theorem findCookie_ne_some {cookies : List String}
    (hother : ∀ cookie ∈ cookies, cookieParts cookie ≠ some (name, token)) :
    findCookie name cookies ≠ some token := by
  intro h
  rw [← List.append_nil cookies, findCookie_append_eq_some_iff [] hother] at h
  cases h.2

end Search

namespace SessionCookies

variable (service : SessionCookies) {token cookie : String}

theorem findCookie_pair_iff {after : List String} (htoken : Text.trim token = token)
    (hcookie : Text.trim cookie = service.pair token)
    (hafter : ∀ other ∈ after, cookieParts other ≠ some (service.cookieName, token)) :
    findCookie service.cookieName (cookie :: after) = some token ↔
      '=' ∉ service.cookieName.toList := by
  constructor
  · intro h
    by_cases hparts : cookieParts cookie = some (service.cookieName, token)
    · exact not_mem_of_cookieParts hparts
    · rw [findCookie_cons_eq_some_iff after hparts] at h
      exact absurd h.2 (findCookie_ne_some hafter)
  · intro hname
    rw [findCookie, cookieParts_of_trim hname hcookie, service.cookieName_trim, htoken]
    exact if_pos rfl

theorem extractCookieToken_eq {headers : HeaderMap} {value : Bytes} {cookies : List String}
    (hvalue : headers.lookup "cookie" = some value) (hne : cookies ≠ [])
    (hjoin : Bytes.fromUtf8Lossy value = joinCookies cookies)
    (hsemicolon : ∀ other ∈ cookies, ';' ∉ other.toList) :
    service.extractCookieToken headers =
      if (headerToStr value).isSome then findCookie service.cookieName cookies else none := by
  rw [extractCookieToken, hvalue, Option.bind_some]
  rcases Option.eq_none_or_eq_some (headerToStr value) with hnone | ⟨header, hheader⟩
  · simp [hnone]
  · have htext : header = joinCookies cookies := by
      rw [← hjoin]
      exact (Option.some.inj (Option.ite_none_right_eq_some.1 hheader).2).symm
    rw [hheader, Option.bind_some, htext, splitCookies_joinCookies hne hsemicolon]
    rfl

/-- Among cookies of which one is the pair of the session and no other one is read as that pair, its
token is found exactly if the header is a text, the name of the cookie has no `=`, and every cookie
that comes before the pair has an `=` and another name. -/
theorem extractCookieToken_iff (headers : HeaderMap) (value : Bytes)
    (before after : List String) (hvalue : headers.lookup "cookie" = some value)
    (hjoin : Bytes.fromUtf8Lossy value = joinCookies (before ++ cookie :: after))
    (hsemicolon : ∀ other ∈ before ++ cookie :: after, ';' ∉ other.toList)
    (htoken : Text.trim token = token) (hcookie : Text.trim cookie = service.pair token)
    (hothers : ∀ other ∈ before ++ after, cookieParts other ≠ some (service.cookieName, token)) :
    service.extractCookieToken headers = some token ↔
      (headerToStr value).isSome ∧ '=' ∉ service.cookieName.toList ∧
        ∀ other ∈ before, ∃ key value, cookieParts other = some (key, value) ∧
          key ≠ service.cookieName := by
  rw [List.forall_mem_append] at hothers
  rw [service.extractCookieToken_eq hvalue (by simp) hjoin hsemicolon,
    Option.ite_none_right_eq_some, findCookie_append_eq_some_iff _ hothers.1,
    service.findCookie_pair_iff htoken hcookie hothers.2]
  exact and_congr_right' and_comm

/-- The service with its default settings. -/
def defaults : SessionCookies where
  cookieName := "cp_tenant_session"
  cookieName_trim := by decide
  cookieName_ne := by decide
  cookieSecure := false
  tokenTtlSec := 28800

theorem extractCookieToken_after_other :
    defaults.extractCookieToken
        [("cookie", Bytes.ofAscii "theme=dark; cp_tenant_session=abc")] = some "abc" := by
  have hjoin : Bytes.fromUtf8Lossy (Bytes.ofAscii "theme=dark; cp_tenant_session=abc") =
      joinCookies (["theme=dark"] ++ " cp_tenant_session=abc" :: []) := by decide +kernel
  refine (defaults.extractCookieToken_iff _ _ _ _ rfl hjoin (by decide +kernel) (by decide)
    (by decide) (by decide +kernel)).2 ?_
  refine ⟨by decide +kernel, by decide, ?_⟩
  rw [List.forall_mem_singleton]
  exact ⟨"theme", "dark", by decide +kernel, by decide⟩

/-- A cookie without a value that comes first hides the session. -/
theorem extractCookieToken_after_bare :
    ¬ ∀ (headers : HeaderMap) (value : Bytes) (before after : List String) (cookie token : String),
      headers.lookup "cookie" = some value →
      Bytes.fromUtf8Lossy value = joinCookies (before ++ cookie :: after) →
      (headerToStr value).isSome →
      (∀ other ∈ before ++ cookie :: after, ';' ∉ other.toList) →
      Text.trim token = token → Text.trim cookie = defaults.pair token →
      (∀ other ∈ before ++ after, ∀ key value, cookieParts other = some (key, value) →
        key ≠ defaults.cookieName) →
      defaults.extractCookieToken headers = some token := by
  intro h
  have hjoin : Bytes.fromUtf8Lossy (Bytes.ofAscii "theme; cp_tenant_session=abc") =
      joinCookies ["theme", " cp_tenant_session=abc"] := by decide +kernel
  have hsemicolon : ∀ other ∈ ["theme", " cp_tenant_session=abc"], ';' ∉ other.toList := by
    decide +kernel
  have hothers : ∀ other ∈ ["theme"], ∀ key value, cookieParts other = some (key, value) →
      key ≠ defaults.cookieName := by
    intro other hother key value hparts
    rw [List.mem_singleton.1 hother] at hparts
    cases hparts
  have hfound := h [("cookie", Bytes.ofAscii "theme; cp_tenant_session=abc")] _ ["theme"] []
    " cp_tenant_session=abc" "abc" rfl hjoin (by decide +kernel) hsemicolon (by decide) (by decide)
    hothers
  rw [defaults.extractCookieToken_eq rfl (by simp) hjoin hsemicolon] at hfound
  exact absurd hfound (by decide +kernel)

end SessionCookies

end CodexPool
