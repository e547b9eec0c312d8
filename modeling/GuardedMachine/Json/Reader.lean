import GuardedMachine.Json.Token

/-!
# Reading JSON

`Json.ofText?` is the value that a JSON text writes.  The tokens of the text are read in one pass:
a `Reader` says what may come next, together with the arrays and objects that are still open.  A
later value of a key replaces an earlier one.  Arrays and objects nest to a depth of at most
`Reader.maxDepth`.
-/

namespace GuardedMachine.Json

/-- An array or object around a value that is still to come. -/
inductive Frame where
  /-- An array with the items before the value, in reverse. -/
  | items (earlier : List Json)
  /-- An object with the members before the value, and its key. -/
  | member (earlier : Members) (name : String)

/-- What a reader waits for, inside the given frames, the innermost one first. -/
inductive Reader where
  | value (frames : List Frame)
  /-- The first item or the end of an array. -/
  | firstItem (frames : List Frame)
  /-- A comma or the end of an array. -/
  | nextItem (items : List Json) (frames : List Frame)
  /-- The first key or the end of an object. -/
  | firstKey (frames : List Frame)
  | key (members : Members) (frames : List Frame)
  | colon (members : Members) (name : String) (frames : List Frame)
  /-- A comma or the end of an object. -/
  | nextMember (members : Members) (frames : List Frame)
  /-- The end of the text. -/
  | done (json : Json)

namespace Reader

/-- How many arrays and objects can be open at once. -/
def maxDepth : Nat := 127

/-- The reader after a value. -/
def after (json : Json) : List Frame → Reader
  | [] => .done json
  | .items earlier :: frames => .nextItem (json :: earlier) frames
  | .member earlier name :: frames => .nextMember (Members.put name json earlier) frames

/-- Read the first token of a value. -/
def begin (frames : List Frame) : Token → Option Reader
  | .openArray => if frames.length < maxDepth then some (.firstItem frames) else none
  | .openObject => if frames.length < maxDepth then some (.firstKey frames) else none
  | .string s => some (after (.str s) frames)
  | .scalar json => some (after json frames)
  | _ => none

/-- Read a token. -/
def step : Reader → Token → Option Reader
  | .value frames, token => begin frames token
  | .firstItem frames, .closeArray => some (after (.arr []) frames)
  | .firstItem frames, token => begin (.items [] :: frames) token
  | .nextItem items frames, .comma => some (.value (.items items :: frames))
  | .nextItem items frames, .closeArray => some (after (.arr items.reverse) frames)
  | .firstKey frames, .closeObject => some (after (.obj []) frames)
  | .firstKey frames, .string name => some (.colon [] name frames)
  | .key members frames, .string name => some (.colon members name frames)
  | .colon members name frames, .colon => some (.value (.member members name :: frames))
  | .nextMember members frames, .comma => some (.key members frames)
  | .nextMember members frames, .closeObject => some (after (.obj members) frames)
  | _, _ => none

/-- The value that was read, if it is complete. -/
def json? : Reader → Option Json
  | .done json => some json
  | _ => none

end Reader

/-- The value that a list of tokens writes. -/
def ofTokens? (tokens : List Token) : Option Json :=
  (tokens.foldlM Reader.step (.value [])).bind Reader.json?

/-- The value that a text writes. -/
def ofText? (text : String) : Option Json :=
  (Token.ofChars? text.toList).bind ofTokens?

example : ofText? " [1, \x7b\"b\": null, \"a\": [], \"b\": true\x7d] "
    = some (.arr [.int 1, .obj [("a", .arr []), ("b", .bool true)]]) := by
  decide +kernel

example : ofText? "[1,]" = none := by decide +kernel

end GuardedMachine.Json
