import PvpDuel.Lib.Uuid
import PvpDuel.Updater.Fetch
import PvpDuel.Updater.Install
import PvpDuel.Updater.Version

/-!
# From the manifest to the new image

`CheckAndStart` on Linux, and the updater that it starts. Everything is fetched over HTTPS. The version, the
checksum and the URL come from the manifest, and only a download with that checksum takes the place of the
old image. The JSON parser and SHA-256 are those of libraries.
-/

namespace PvpDuel.Updater

open Files (Disk exec)

/-! ### The manifest -/

/-- A JSON value, of which the other kinds are not told apart. -/
inductive Json
  | string (value : String)
  | object (members : List (String × Json))
  | other

structure Release where
  version : String
  url : String
  sha256 : String
deriving DecidableEq, Repr

section

variable (web : Web) (parse : List UInt8 → Option Json) (current : String) (environment : Environment)

end

/-! ### The updater -/

/-- `Download`, after the requests of the check. -/
def download (web : Web) (asked : List Url) (url : String) : Option (List UInt8) :=
  let (response, _) := fetchHttps web url.toList asked
  if response.ok then some response.body else none

/-- `Sha256`: the digest of the library in hexadecimal digits, or nothing when the library fails. -/
def sha256 (digest : List UInt8 → Option (List UInt8)) (data : List UInt8) : String :=
  match digest data with
  | none => ""
  | some bytes => String.ofList (bytes.flatMap fun byte =>
      [Uuid.hexDigit (byte.toNat / 16), Uuid.hexDigit (byte.toNat % 16)])

/-! ### What an update can do -/

section

variable {web : Web} {parse : List UInt8 → Option Json} {current : String} {environment : Environment}
  {manifestUrl url : String} {started : Started} {earlier asked : List Url} {result : FetchResult}

/-- The updater touches nothing when the download fails or has another checksum. Otherwise it installs what
came: wherever it stops, the old image is there or the new one is in its place, and it leaves the old one or
starts the new one. -/
def Verifies (web : Web) (digest : List UInt8 → Option (List UInt8)) (asked requests : List Url)
    (release : Release) (arguments : List String) : Prop :=
  let result := (fetchHttps web release.url.toList asked).1
  (¬ (result.ok = true ∧ sha256 digest result.body = release.sha256) ∧
    main (download web asked) (sha256 digest) arguments = .done (.returned 1)) ∨
  ∃ response, web (asked ++ requests) = some response ∧ response.status = 200 ∧
    sha256 digest response.body = release.sha256 ∧
    ∀ (old : List UInt8) (disk : Disk UpdateFile UInt8), disk .target = some old →
      (main (download web asked) (sha256 digest) arguments).Ensures exec
        (Recoverable old response.body) (Installed old response.body) disk

end

end PvpDuel.Updater
