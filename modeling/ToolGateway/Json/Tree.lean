import ToolGateway.Json.Token

namespace ToolGateway.Json

abbrev Name := List Piece

inductive Tree where
  | null
  | truth (b : Bool)
  | number (literal : Literal)
  | text (pieces : List Piece)
  | array (items : List Tree)
  | object (members : List (Name × Tree))
  deriving Inhabited

mutual
def Tree.tokens : Tree → List Token
  | .null => [.null]
  | .truth b => [.truth b]
  | .number l => [.number l]
  | .text p => [.text p]
  | .array items => .openArray :: (itemTokens items ++ [.closeArray])
  | .object members => .openObject :: (memberTokens members ++ [.closeObject])
def itemTokens : List Tree → List Token
  | [] => []
  | [t] => t.tokens
  | t :: rest => t.tokens ++ .comma :: itemTokens rest
def memberTokens : List (Name × Tree) → List Token
  | [] => []
  | [(name, t)] => .text name :: .colon :: t.tokens
  | (name, t) :: rest => .text name :: .colon :: (t.tokens ++ .comma :: memberTokens rest)
end

-- An open bracket with what it holds before the value that is being read, last first.
inductive Frame where
  | item (before : List Tree)
  | member (before : List (Name × Tree)) (name : Name)

inductive Reader where
  | value (frames : List Frame)
  | startArray (frames : List Frame)
  | startObject (frames : List Frame)
  | key (frames : List Frame) (before : List (Name × Tree))
  | colon (frames : List Frame) (before : List (Name × Tree)) (name : Name)
  | after (frames : List Frame) (t : Tree)

def Reader.feedValue (frames : List Frame) : Token → Option Reader
  | .null => some (.after frames .null)
  | .truth b => some (.after frames (.truth b))
  | .number l => some (.after frames (.number l))
  | .text p => some (.after frames (.text p))
  | .openArray => some (.startArray frames)
  | .openObject => some (.startObject frames)
  | _ => none

def Reader.feed : Reader → Token → Option Reader
  | .value frames, token => Reader.feedValue frames token
  | .startArray frames, .closeArray => some (.after frames (.array []))
  | .startArray frames, token => Reader.feedValue (.item [] :: frames) token
  | .startObject frames, .closeObject => some (.after frames (.object []))
  | .startObject frames, .text name => some (.colon frames [] name)
  | .key frames before, .text name => some (.colon frames before name)
  | .colon frames before name, .colon => some (.value (.member before name :: frames))
  | .after (.item before :: frames) t, .comma => some (.value (.item (t :: before) :: frames))
  | .after (.item before :: frames) t, .closeArray => some (.after frames (.array (t :: before).reverse))
  | .after (.member before name :: frames) t, .comma => some (.key frames ((name, t) :: before))
  | .after (.member before name :: frames) t, .closeObject =>
    some (.after frames (.object ((name, t) :: before).reverse))
  | _, _ => none

def Reader.result? : Reader → Option Tree
  | .after [] t => some t
  | _ => none

def Tree.ofTokens? (tokens : List Token) : Option Tree :=
  (tokens.foldlM Reader.feed (.value [])).bind Reader.result?

def Tree.ofChars? (s : List Char) : Option Tree := (tokens? s).bind Tree.ofTokens?

end ToolGateway.Json
