import VectorFetch.Http.Options
import VectorFetch.Site
import VectorFetch.Url.Basic

/-!
# Getting a URL

* `follow`: request after request, as long as the replies are redirects.
* `readFile`: a file of this machine by its URL.
* `get`: the response for a URL.

Only the last reply counts: its status and its body are the response. Of a reply that redirects
nothing but the head counts, so it makes no difference what its body is or whether it is complete.
-/

namespace VectorFetch.Http

variable {σ : Type}

/-- Requests an address and, while the reply is a redirect and `hops` allows, the
address that it leads to. -/
def follow (net : Network σ) (followRedirects : Bool) (hops : Nat) (address : Address)
    (site : Site σ) : Except TransferFault Response × Site σ :=
  match site.ask net address with
  | (.error e, site) => (.error e, site)
  | (.ok reply, site) =>
    match if followRedirects then reply.redirect? else none with
    | none => (reply.receive, site)
    | some place =>
      match hops with
      | 0 => (.error .tooManyRedirects, site)
      | hops + 1 =>
        match address.redirected place with
        | .error e => (.error e, site)
        | .ok address => follow net followRedirects hops address site

/-- The content of a directory as a text: the names that do not start with a point. -/
def listing (files : Files) (place : Place) : Bytes :=
  let names := (files.below place).filterMap fun (names, _) =>
    match names with
    | [name] => if name.startsWith "." then none else some (name ++ "\n")
    | _ => none
  Utf8.encode (String.join names)

/-- A file of this machine. It has no status. -/
def readFile (site : Site σ) (address : Address) : Except TransferFault Response :=
  let name := Url.Percent.decode (Utf8.encode address.path)
  if name.contains 0 then .error .malformedUrl
  else
    match Utf8.text? name with
    | none => .error .unreadableFile
    | some path =>
      match site.files.locate site.cwd ⟨path⟩ with
      | .error _ => .error .unreadableFile
      | .ok spot =>
        match site.files.node? spot.place with
        | some .directory => .ok ⟨0, listing site.files spot.place⟩
        | some (.file content _) =>
          if spot.wantsDirectory then .error .unreadableFile else .ok ⟨0, content⟩
        | some .discard => .ok ⟨0, []⟩
        | none => .error .unreadableFile

/-- Transfers what a URL names. -/
def transfer (net : Network σ) (options : Options) (url : Url) (site : Site σ) :
    Except TransferFault Response × Site σ :=
  if !options.isUsable then (.error .badSetting, site)
  else
    match Address.ofText url.text with
    | .error e => (.error e, site)
    | .ok address =>
      if address.scheme = "file" then (readFile site address, site)
      else follow net options.followRedirects options.hops address site

/-- Transfers what a URL names, and logs a response. -/
def get (net : Network σ) (options : Options) (url : Url) (site : Site σ) :
    Except TransferError Response × Site σ :=
  match transfer net options url site with
  | (.error fault, site) => (.error ⟨fault, net.detail site.server url fault⟩, site)
  | (.ok response, site) =>
    (.ok response, site.log (.responded url.text response.status response.body.length))

end VectorFetch.Http
