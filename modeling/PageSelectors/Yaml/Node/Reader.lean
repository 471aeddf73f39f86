import PageSelectors.Yaml.Node

/-!
From tokens to the document of a text. There is one document at most; a text without any holds an
empty node. Where a node may be left out, an empty one stands for it.
-/

namespace PageSelectors.Yaml

abbrev Handles := List (String × Address)

def Handles.standard : Handles :=
  [("!", .unspecific), ("!!", .core "")]

def Handles.expand (handles : Handles) (handle : String) (suffix : Address) : Option Address :=
  if handle.isEmpty then some suffix
  else (handles.lookup handle).map (· ++ suffix)

def readProperties (handles : Handles) :
    List Token → Option (Properties String × List Token)
  | .anchor name :: .tag handle suffix :: rest
  | .tag handle suffix :: .anchor name :: rest => do
      return (⟨some name, ← handles.expand handle suffix⟩, rest)
  | .anchor name :: rest => some (⟨some name, none⟩, rest)
  | .tag handle suffix :: rest => do return (⟨none, ← handles.expand handle suffix⟩, rest)
  | rest => some (.none, rest)

def endsNode (enders : List Token) (tokens : List Token) : Bool :=
  match tokens with
  | token :: _ => token ∈ enders
  | [] => true

mutual

/-- Read a node. An item may follow at once only in a member of a block mapping, whose sequences need
no indentation of their own. -/
def readNode (handles : Handles) (inMember : Bool) :
    Nat → List Token → Option (Node String × List Token)
  | 0, _ => none
  | _ + 1, .reference name :: rest => some (.reference name, rest)
  | fuel + 1, tokens => do
      let (properties, rest) ← readProperties handles tokens
      match rest with
      | .scalar style text :: rest => return (.scalar properties style text, rest)
      | .sequenceStart :: rest =>
          let (items, rest) ← readFlowItems handles true fuel rest
          return (.sequence properties items, rest)
      | .mappingStart :: rest =>
          let (members, rest) ← readFlowMembers handles true fuel rest
          return (.mapping properties members, rest)
      | .blockSequence :: rest =>
          let (items, rest) ← readBlockItems handles fuel rest
          return (.sequence properties items, rest)
      | .blockMapping :: rest =>
          let (members, rest) ← readBlockMembers handles fuel rest
          return (.mapping properties members, rest)
      | rest =>
          if inMember && rest.head? == some .item then
            let (items, rest) ← readInnerItems handles fuel rest
            return (.sequence properties items, rest)
          else if properties.isNone then none
          else return (.scalar properties .plain "", rest)

def readOptional (handles : Handles) (inMember : Bool) (enders : List Token) :
    Nat → List Token → Option (Node String × List Token)
  | 0, _ => none
  | fuel + 1, tokens =>
      if endsNode enders tokens then some (.empty, tokens)
      else readNode handles inMember fuel tokens

def readMemberValue (handles : Handles) (inMember : Bool) (enders : List Token) :
    Nat → List Token → Option (Node String × List Token)
  | 0, _ => none
  | fuel + 1, .value :: rest => readOptional handles inMember enders fuel rest
  | _ + 1, rest => some (.empty, rest)

def readBlockItems (handles : Handles) :
    Nat → List Token → Option (List (Node String) × List Token)
  | 0, _ => none
  | _ + 1, .blockEnd :: rest => some ([], rest)
  | fuel + 1, .item :: rest => do
      let (node, rest) ← readOptional handles false [.item, .blockEnd] fuel rest
      let (nodes, rest) ← readBlockItems handles fuel rest
      return (node :: nodes, rest)
  | _ + 1, _ => none

def readInnerItems (handles : Handles) :
    Nat → List Token → Option (List (Node String) × List Token)
  | 0, _ => none
  | fuel + 1, .item :: rest => do
      let (node, rest) ← readOptional handles false [.item, .key, .value, .blockEnd] fuel rest
      let (nodes, rest) ← readInnerItems handles fuel rest
      return (node :: nodes, rest)
  | _ + 1, rest => some ([], rest)

def readBlockMembers (handles : Handles) :
    Nat → List Token → Option (List (Node String × Node String) × List Token)
  | 0, _ => none
  | _ + 1, .blockEnd :: rest => some ([], rest)
  | fuel + 1, .key :: rest => do
      let enders := [.key, .value, .blockEnd]
      let (key, rest) ← readOptional handles true enders fuel rest
      let (value, rest) ← readMemberValue handles true enders fuel rest
      let (members, rest) ← readBlockMembers handles fuel rest
      return ((key, value) :: members, rest)
  | _ + 1, _ => none

def readFlowItems (handles : Handles) (first : Bool) :
    Nat → List Token → Option (List (Node String) × List Token)
  | 0, _ => none
  | _ + 1, .sequenceEnd :: rest => some ([], rest)
  | fuel + 1, tokens => do
      let tokens ← match first, tokens with
        | true, tokens => some tokens
        | false, .comma :: rest => some rest
        | false, _ => none
      match tokens with
      | .sequenceEnd :: rest => return ([], rest)
      | .key :: rest =>
          let enders := [.comma, .sequenceEnd]
          let (key, rest) ←
            if endsNode (.value :: enders) rest then some (.empty, rest.drop 1)
            else readNode handles false fuel rest
          let (value, rest) ← readMemberValue handles false enders fuel rest
          let (nodes, rest) ← readFlowItems handles false fuel rest
          return (.mapping .none [(key, value)] :: nodes, rest)
      | tokens =>
          let (node, rest) ← readNode handles false fuel tokens
          let (nodes, rest) ← readFlowItems handles false fuel rest
          return (node :: nodes, rest)

def readFlowMembers (handles : Handles) (first : Bool) :
    Nat → List Token → Option (List (Node String × Node String) × List Token)
  | 0, _ => none
  | _ + 1, .mappingEnd :: rest => some ([], rest)
  | fuel + 1, tokens => do
      let tokens ← match first, tokens with
        | true, tokens => some tokens
        | false, .comma :: rest => some rest
        | false, _ => none
      match tokens with
      | .mappingEnd :: rest => return ([], rest)
      | .key :: rest =>
          let enders := [.comma, .mappingEnd]
          let (key, rest) ← readOptional handles false (.value :: enders) fuel rest
          let (value, rest) ← readMemberValue handles false enders fuel rest
          let (members, rest) ← readFlowMembers handles false fuel rest
          return ((key, value) :: members, rest)
      | tokens =>
          let (key, rest) ← readNode handles false fuel tokens
          let (members, rest) ← readFlowMembers handles false fuel rest
          return ((key, .empty) :: members, rest)

end

/-- Read the directives of a document and its opening rule: at most one version, which must be known,
and each handle at most once. -/
def readDirectives (version : Bool) (handles : Handles) :
    List Token → Option (Handles × List Token)
  | .version major minor :: rest =>
      if !version && major == 1 && (minor == 1 || minor == 2) then
        readDirectives true handles rest
      else none
  | .handle name expansion :: rest =>
      if (handles.lookup name).isSome then none
      else readDirectives version ((name, expansion) :: handles) rest
  | .documentStart :: rest => some (handles ++ .standard, rest)
  | _ => none

def hasOpening : List Token → Bool
  | .version .. :: _ => true
  | .handle .. :: _ => true
  | .documentStart :: _ => true
  | _ => false

def readDocument (fuel : Nat) (tokens : List Token) : Option (Node String × List Token) := do
  if hasOpening tokens then
    let (handles, rest) ← readDirectives false [] tokens
    if hasOpening rest || endsNode [.documentEnd] rest then return (.empty, rest)
    else readNode handles false fuel rest
  else if tokens.isEmpty then return (.empty, [])
  else readNode .standard false fuel tokens

def Node.ofTokens? (tokens : List Token) : Option (Node String) := do
  let (node, rest) ← readDocument (4 * tokens.length + 4) tokens
  guard (rest.all (· == .documentEnd))
  return node

end PageSelectors.Yaml
