import OpenFrag.Library.MachineInt
import OpenFrag.Library.Outcome
import OpenFrag.Library.Written
import OpenFrag.Setup.Model

-- The preview of a clip, or of a range of its bytes, by the local API.
namespace Service

open Decimal (splitOnce parseUnsigned)
open MachineInt (saturatingAdd)

def byteRange (value : String) (length : Nat) : Option (Nat × Nat) := do
  let range ← "bytes=".toList.isPrefixOf? value.toList
  if ',' ∈ range ∨ length = 0 then
    none
  else
    let (start, last) ← splitOnce '-' range
    if start = [] then
      let suffix := min (← parseUnsigned 64 (.ofList last)) length
      if suffix ≠ 0 then some (length - suffix, length - 1) else none
    else
      let start ← parseUnsigned 64 (.ofList start)
      if start ≥ length then
        none
      else
        let last ← if last = [] then some (length - 1)
          else (parseUnsigned 64 (.ofList last)).map (min · (length - 1))
        if start ≤ last then some (start, last) else none

inductive StatusCode
  | ok
  | partialContent
  | badRequest
  | notFound
  | conflict
  | rangeNotSatisfiable
  | serviceUnavailable
  deriving DecidableEq, Repr

-- The status and the message of an error.
def errorResponse : Setup.ApiError → StatusCode × String
  | .notFound           => (.notFound, "not found")
  | .invalid value      => (.badRequest, value)
  | .conflict value     => (.conflict, value)
  | .unavailable value  => (.serviceUnavailable, value)

structure ClipPreview where
  path      : String
  mediaType : String
  deriving DecidableEq, Repr

-- A file does not change while it is sent.
structure File where
  content   : List UInt8
  length_lt : content.length < 2 ^ 64

structure Response where
  status        : StatusCode
  contentType   : Option String := none
  contentLength : Option Nat := none
  acceptRanges  : Option String := none
  cacheControl  : Option String := none
  contentRange  : Option String := none
  body          : List UInt8 := []
  deriving DecidableEq, Repr

-- The service that knows the clips, the files that can be opened, the reading of a header as a text,
-- and the check of a media type by the builder of responses.
structure PreviewPorts where
  previewClip : String → Except Setup.ApiError ClipPreview
  openFile    : String → Option File
  seek        : File → Nat → Except String Unit
  headerText  : List UInt8 → Option String
  header      : String → Except String Unit

variable (ports : PreviewPorts)

def seekTo (file : File) (start : Nat) : Except (StatusCode × String) Unit :=
  if start ≠ 0 then
    (ports.seek file start).mapError fun error => errorResponse (.unavailable error)
  else
    .ok ()

def previewClip (id : String) (range : Option (List UInt8)) :
    Except (StatusCode × String) Response := do
  let preview ← (ports.previewClip id).mapError errorResponse
  let file ← Except.okOr (errorResponse .notFound) (ports.openFile preview.path)
  let length := file.content.length
  let requestedRange := (range.bind ports.headerText).bind (byteRange · length)
  if range.isSome ∧ requestedRange = none then
    return { status := .rangeNotSatisfiable, contentRange := "bytes */" ++ toString length }
  else
    let (start, responseLength) :=
      match requestedRange with
      | some (start, last) => (start, saturatingAdd 64 (last - start) 1)
      | none               => (0, length)
    seekTo ports file start
    (ports.header preview.mediaType).mapError fun error => errorResponse (.unavailable error)
    return {
      status        := if requestedRange.isSome then .partialContent else .ok
      contentType   := preview.mediaType
      contentLength := responseLength
      acceptRanges  := "bytes"
      cacheControl  := "no-store"
      contentRange  := requestedRange.map fun (start, last) =>
        "bytes " ++ toString start ++ "-" ++ toString last ++ "/" ++ toString length
      body          := (file.content.drop start).take responseLength
    }

end Service
