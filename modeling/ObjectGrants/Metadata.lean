import ObjectGrants.Json.Wire

/-!
The limits that an upload is held to. An upload carries one block of limits, of one of three
kinds, and the block names the content type it was made for.
-/

namespace ObjectGrants

open Json

/-- The limits of an image: bytes, then pixels. -/
structure ImageLimits where
  minSize : UInt64
  maxSize : UInt64
  minWidth : UInt64
  maxWidth : UInt64
  minHeight : UInt64
  maxHeight : UInt64
  contentType : String
  deriving DecidableEq, Repr

/-- The limits of a video: bytes, then seconds. -/
structure VideoLimits where
  minSize : UInt64
  maxSize : UInt64
  maxDuration : UInt64
  contentType : String
  deriving DecidableEq, Repr

/-- The limits of a document, in bytes. -/
structure DocumentLimits where
  minSize : UInt64
  maxSize : UInt64
  contentType : String
  deriving DecidableEq, Repr

/-- The block of limits of an upload. -/
inductive Metadata where
  | image (limits : ImageLimits)
  | video (limits : VideoLimits)
  | document (limits : DocumentLimits)
  deriving DecidableEq, Repr

namespace Metadata

def contentType : Metadata → String
  | image limits => limits.contentType
  | video limits => limits.contentType
  | document limits => limits.contentType

def minSize : Metadata → UInt64
  | image limits => limits.minSize
  | video limits => limits.minSize
  | document limits => limits.minSize

def maxSize : Metadata → UInt64
  | image limits => limits.maxSize
  | video limits => limits.maxSize
  | document limits => limits.maxSize

/-- The same limits for another content type. -/
def withContentType (contentType : String) : Metadata → Metadata
  | image limits => image { limits with contentType }
  | video limits => video { limits with contentType }
  | document limits => document { limits with contentType }

/-- The name under which a block of limits stands on the wire. -/
def key : Metadata → String
  | image _ => "imageMetadata"
  | video _ => "videoMetadata"
  | document _ => "documentMetadata"

end Metadata

instance : Wire ImageLimits where
  encode limits :=
    .object [("minSize", encode limits.minSize), ("maxSize", encode limits.maxSize),
      ("minWidth", encode limits.minWidth), ("maxWidth", encode limits.maxWidth),
      ("minHeight", encode limits.minHeight), ("maxHeight", encode limits.maxHeight),
      ("contentType", encode limits.contentType)]
  decode? document := do
    let members ← Record.members? ["minSize", "maxSize", "minWidth", "maxWidth", "minHeight",
      "maxHeight", "contentType"] 7 document
    pure {
      minSize := ← Record.required? ["minSize"] members
      maxSize := ← Record.required? ["maxSize"] members
      minWidth := ← Record.required? ["minWidth"] members
      maxWidth := ← Record.required? ["maxWidth"] members
      minHeight := ← Record.required? ["minHeight"] members
      maxHeight := ← Record.required? ["maxHeight"] members
      contentType := ← Record.required? ["contentType"] members }

instance : Wire VideoLimits where
  encode limits :=
    .object [("minSize", encode limits.minSize), ("maxSize", encode limits.maxSize),
      ("duration", encode limits.maxDuration), ("contentType", encode limits.contentType)]
  decode? document := do
    let members ← Record.members? ["minSize", "maxSize", "duration", "contentType"] 4 document
    pure {
      minSize := ← Record.required? ["minSize"] members
      maxSize := ← Record.required? ["maxSize"] members
      maxDuration := ← Record.required? ["duration"] members
      contentType := ← Record.required? ["contentType"] members }

instance : Wire DocumentLimits where
  encode limits :=
    .object [("minSize", encode limits.minSize), ("maxSize", encode limits.maxSize),
      ("contentType", encode limits.contentType)]
  decode? document := do
    let members ← Record.members? ["minSize", "maxSize", "contentType"] 3 document
    pure {
      minSize := ← Record.required? ["minSize"] members
      maxSize := ← Record.required? ["maxSize"] members
      contentType := ← Record.required? ["contentType"] members }

namespace Metadata

/-- The member that stands for a block of limits. -/
def member (metadata : Metadata) : String × Value :=
  (metadata.key, match metadata with
    | image limits => encode limits
    | video limits => encode limits
    | document limits => encode limits)

/-- The names of the three kinds of blocks. -/
def keys : List String := ["imageMetadata", "videoMetadata", "documentMetadata"]

/-- The block of limits that a member stands for. -/
def ofMember? : String × Document → Option Metadata
  | ("imageMetadata", block) => (decode? block).map image
  | ("videoMetadata", block) => (decode? block).map video
  | ("documentMetadata", block) => (decode? block).map document
  | _ => none

end Metadata

instance : Wire Metadata where
  encode metadata := .object [metadata.member]
  decode?
    | .object [member] => Metadata.ofMember? member
    | _ => none

end ObjectGrants
