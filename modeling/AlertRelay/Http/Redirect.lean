import AlertRelay.Http.Request
import AlertRelay.Url.Resolve

/-!
# Redirects

## Main definitions

* `isRedirect`: the statuses that redirect.
* `redirectUrl`: the URL that a location stands for; a host that is missing after a scheme is
  the one of the request, a relative location is resolved, and a fragment that is missing is
  kept.
* `redirect`: the request that a redirecting response asks for.
-/

namespace AlertRelay.Http

open AlertRelay.Text

/-- Whether a response of a status redirects when it has a location. -/
def isRedirect (status : Int) : Bool := [301, 302, 303, 307, 308].contains status

/-- The method after a redirect. -/
def redirectMethod (status : Int) (method : String) : String :=
  if status = 303 ∨ status = 302 then (if method = "HEAD" then method else "GET")
  else if status = 301 ∧ method = "POST" then "GET"
  else method

/-- The host of a URL as it is read. -/
def hostNameOf (url : Url) : Except Failure String := url.hostName.mapError .host

/-- A URL with a scheme but without a host, on the host of the request. -/
def completeHost (origin url : Url) : Except Failure Url :=
  if url.scheme = "" then .ok url
  else do
    let name ← hostNameOf url
    if name ≠ "" then .ok url
    else do
      let originName ← hostNameOf origin
      (url.withHost originName).mapError .url

/-- A relative URL, resolved. -/
def resolve (origin url : Url) : Except Failure Url :=
  if url.isAbsolute then .ok url else (origin.join url).mapError .url

/-- A URL without a fragment, with the one of the request. -/
def keepFragment (origin url : Url) : Except Failure Url :=
  if origin.fragmentText ≠ "" ∧ url.fragmentText = "" then
    (url.withFragment origin.fragmentText).mapError .url
  else
    .ok url

/-- The URL that a location stands for. -/
def redirectUrl (origin : Url) (location : String) : Except Failure Url := do
  let url ← (Url.read location).mapError .location
  let url ← completeHost origin url
  let url ← resolve origin url
  keepFragment origin url

/-- Whether a redirect only moves a host from plain to encrypted connections, both on their
usual ports. -/
def isUpgrade (origin url : Url) (originHost host : String) : Bool :=
  originHost = host && origin.scheme = "http" && origin.effectivePort = some 80 &&
    url.scheme = "https" && url.effectivePort = some 443

/-- The header fields for the host of another URL. Credentials do not follow to another origin. -/
def moveHeaders (origin url : Url) (originHost host : String) (headers : Headers) :
    Except Failure Headers :=
  if url.scheme = origin.scheme ∧ host = originHost ∧ url.effectivePort = origin.effectivePort then
    .ok headers
  else
    let kept :=
      if isUpgrade origin url originHost host then headers else headers.erase "Authorization"
    (hostField url).map fun value => kept.set "Host" value

/-- The header fields without those about a content that does not follow. -/
def withoutContent (dropsContent : Bool) (headers : Headers) : Headers :=
  if dropsContent then (headers.erase "Content-Length").erase "Transfer-Encoding" else headers

/-- The header fields after a redirect; cookies do not follow. -/
def redirectHeaders (origin url : Url) (dropsContent : Bool) (headers : Headers) :
    Except Failure Headers := do
  let host ← hostNameOf url
  let originHost ← hostNameOf origin
  let headers ← moveHeaders origin url originHost host headers
  return (withoutContent dropsContent headers).erase "Cookie"

/-- The request that a response of a status asks for by its location. -/
def redirect (request : Request) (status : Int) (location : String) : Except Failure Request := do
  let method := redirectMethod status request.method
  let dropsContent := method ≠ request.method && method = "GET"
  let url ← redirectUrl request.url location
  let headers ← redirectHeaders request.url url dropsContent request.headers
  if dropsContent then
    Request.prepare method url headers []
  else
    return { request with url, headers }

end AlertRelay.Http
