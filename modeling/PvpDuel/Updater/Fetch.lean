import Mathlib.Data.List.TakeWhile
import Mathlib.Tactic.Common

/-!
# Fetching over HTTPS

`https_fetch.h`. The HTTP library connects with TLS only. Its redirects are followed here, and each goes
through the same parser as the first URL.
-/

namespace PvpDuel.Updater

/-! ### URLs -/

structure Url where
  origin : List Char
  path : List Char
deriving DecidableEq, Repr

def httpsPrefix : List Char := ['h', 't', 't', 'p', 's', ':', '/', '/']

/-- The authority ends at the first slash, or with the URL. -/
def parseHttpsUrl (value : List Char) : Option Url :=
  if httpsPrefix <+: value then
    let rest := value.drop httpsPrefix.length
    let authority := rest.takeWhile (· ≠ '/')
    if authority = [] ∨ '?' ∈ authority ∨ '#' ∈ authority then none
    else
      let path := rest.dropWhile (· ≠ '/')
      some ⟨httpsPrefix ++ authority, if path = [] then ['/'] else path⟩
  else none

def Url.text (url : Url) : List Char := url.origin ++ url.path

structure IsHttps (url : Url) (authority : List Char) : Prop where
  origin : url.origin = httpsPrefix ++ authority
  nonempty : authority ≠ []
  plain : '/' ∉ authority ∧ '?' ∉ authority ∧ '#' ∉ authority
  path : url.path.head? = some '/'

theorem isHttps_of_parse {value : List Char} {url : Url} (h : parseHttpsUrl value = some url) :
    ∃ authority, IsHttps url authority ∧
      (value = url.text ∨ value = url.origin ∧ url.path = ['/']) := by
  unfold parseHttpsUrl at h
  dsimp only at h
  split at h
  · rename_i hprefix
    obtain ⟨rest, rfl⟩ := hprefix
    rw [List.drop_left] at h
    split at h
    · cases h
    · rename_i haccepted
      push Not at haccepted
      obtain ⟨hnonempty, hquery, hfragment⟩ := haccepted
      have hsplit := List.takeWhile_append_dropWhile (p := fun c => decide (c ≠ '/')) (l := rest)
      have hslash : '/' ∉ rest.takeWhile (· ≠ '/') := fun hin => by
        simpa using List.mem_takeWhile_imp hin
      obtain rfl := Option.some.inj h
      refine ⟨_, ⟨rfl, hnonempty, ⟨hslash, hquery, hfragment⟩, ?_⟩, ?_⟩
      · dsimp only
        split
        · rfl
        · rename_i hpath
          have hhead := List.head_dropWhile_not (fun c => decide (c ≠ '/')) hpath
          rw [List.head?_eq_some_head hpath]
          simpa using hhead
      · unfold Url.text
        dsimp only
        split
        · rename_i hpath
          rw [hpath, List.append_nil] at hsplit
          right
          rw [hsplit]
          exact ⟨rfl, rfl⟩
        · left
          rw [List.append_assoc, hsplit]
  · cases h

theorem parseHttpsUrl_text {url : Url} {authority : List Char} (h : IsHttps url authority) :
    parseHttpsUrl url.text = some url := by
  obtain ⟨origin, path⟩ := url
  obtain ⟨horigin, hnonempty, ⟨hslash, hquery, hfragment⟩, hpath⟩ := h
  obtain ⟨rest, rfl⟩ := List.head?_eq_some_iff.1 hpath
  obtain rfl : origin = httpsPrefix ++ authority := horigin
  have hall : ∀ c ∈ authority, decide (c ≠ '/') = true := fun c hc =>
    decide_eq_true fun heq => hslash (heq ▸ hc)
  have htake : (authority ++ '/' :: rest).takeWhile (fun c => decide (c ≠ '/')) = authority := by
    rw [List.takeWhile_append_of_pos hall, List.takeWhile_cons_of_neg (by decide), List.append_nil]
  have hdrop : (authority ++ '/' :: rest).dropWhile (fun c => decide (c ≠ '/')) = '/' :: rest := by
    rw [List.dropWhile_append_of_pos hall, List.dropWhile_cons_of_neg (by decide)]
  have hrejected : ¬ (authority = [] ∨ '?' ∈ authority ∨ '#' ∈ authority) := by
    push Not
    exact ⟨hnonempty, hquery, hfragment⟩
  unfold parseHttpsUrl Url.text
  rw [List.append_assoc, if_pos (List.prefix_append _ _), List.drop_left]
  dsimp only
  rw [htake, hdrop, if_neg hrejected, if_neg (List.cons_ne_nil _ _)]

/-- Whatever the parser gives is an HTTPS URL, as it is read and as it is written. -/
theorem parse_text {value : List Char} {url : Url} (h : parseHttpsUrl value = some url) :
    parseHttpsUrl url.text = some url := by
  obtain ⟨authority, hhttps, -⟩ := isHttps_of_parse h
  exact parseHttpsUrl_text hhttps

/-! ### Requests and redirects -/

/-- A response of the HTTP library, with its `location`, which is empty when there is none. -/
structure Response where
  status : Int
  body : List UInt8
  location : List Char
deriving DecidableEq, Repr

structure FetchResult where
  ok : Bool := false
  body : List UInt8 := []
  error : String := ""
deriving DecidableEq, Repr

/-- What the servers answer to the last of the requests so far. -/
abbrev Web := List Url → Option Response

def isRedirect (status : Int) : Bool :=
  status = 301 || status = 302 || status = 303 || status = 307 || status = 308

def statusError (status : Int) : String :=
  "HTTPS request returned status " ++ toString status ++
    if status = 403 then " (access denied or request rate limited)"
    else if status = 429 then " (request rate limited; retry later)"
    else ""

def maximumRedirects : ℕ := 5

/-- The loop of `FetchHttps`, with the redirects that are left and the requests so far. -/
def fetchFrom (web : Web) : ℕ → Url → List Url → FetchResult × List Url
  | left, current, asked =>
      let asked := asked ++ [current]
      match web asked with
      | none => ({ error := "HTTPS request failed" }, asked)
      | some response =>
          if response.status = 200 then ({ ok := true, body := response.body }, asked)
          else if ¬ isRedirect response.status then ({ error := statusError response.status }, asked)
          else
            match left with
            | 0 => ({ error := "HTTPS redirect limit exceeded" }, asked)
            | left + 1 =>
                match parseHttpsUrl response.location with
                | none => ({ error := "HTTPS redirect was not HTTPS" }, asked)
                | some next => fetchFrom web left next asked

def fetchHttps (web : Web) (url : List Char) (asked : List Url) : FetchResult × List Url :=
  match parseHttpsUrl url with
  | none => ({ error := "URL is not HTTPS" }, asked)
  | some first => fetchFrom web maximumRedirects first asked

section

variable {web : Web} {earlier asked : List Url} {url : List Char} {result : FetchResult}

end

end PvpDuel.Updater
