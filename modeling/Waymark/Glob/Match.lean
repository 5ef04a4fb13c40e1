import Waymark.Glob.Shape

set_option autoImplicit false

/-! Which paths a pattern matches. A pattern is compared with the bytes of a path; for each token the
possible rests of the path are kept, each once. -/

namespace Waymark

namespace Glob

def slash : UInt8 := 47

def bytes (text : String) : List UInt8 := text.toUTF8.toList

/-- The rests of a text after any number of bytes that do not satisfy `stop`. -/
def restsWithin (stop : UInt8 → Bool) : List UInt8 → List (List UInt8)
  | [] => [[]]
  | byte :: rest => (byte :: rest) :: if stop byte then [] else restsWithin stop rest

def restsAfterSlashes : List UInt8 → List (List UInt8)
  | [] => []
  | byte :: rest => if byte = slash then rest :: restsAfterSlashes rest else restsAfterSlashes rest

def restAfter (accepts : UInt8 → Bool) : List UInt8 → List (List UInt8)
  | [] => []
  | byte :: rest => if accepts byte then [rest] else []

def restAfterBytes : List UInt8 → List UInt8 → List (List UInt8)
  | [], rest => [rest]
  | _ :: _, [] => []
  | wanted :: more, found :: rest => if wanted = found then restAfterBytes more rest else []

/-- The ranges of bytes that a range of characters stands for: a range of characters of several bytes
reaches from the last byte of its first character to the first byte of its last, and their other
bytes stand for themselves. -/
def byteRanges (first last : Char) : List (UInt8 × UInt8) :=
  let single (byte : UInt8) := (byte, byte)
  let low := bytes first.toString
  let high := bytes last.toString
  if first = last then low.map single
  else
    low.dropLast.map single ++ [(low.getLast?.getD 0, high.head?.getD 0)] ++ high.tail.map single

def inClass (negated : Bool) (ranges : List (Char × Char)) (byte : UInt8) : Bool :=
  negated != (ranges.any fun (first, last) =>
    (byteRanges first last).any fun (low, high) => low ≤ byte && byte ≤ high)

/-- Rests of one text, each once: two of them are equal if they are equally long. -/
def distinct (rests : List (List UInt8)) : List (List UInt8) :=
  rests.foldr (fun rest kept => if kept.any (·.length == rest.length) then kept else rest :: kept) []

mutual

/-- Whether a sequence of tokens is empty, or holds only groups of empty branches. -/
def isBlank : List GlobToken → Bool
  | [] => true
  | .alternatives branches :: rest => areBlank branches && isBlank rest
  | _ :: _ => false

def areBlank : List (List GlobToken) → Bool
  | [] => true
  | branch :: rest => isBlank branch && areBlank rest

end

mutual

/-- The rests of a text after what a token stands for. Blank branches of a group do not count, unless
all are. -/
def tokenRests (slashIsSpecial : Bool) : GlobToken → List UInt8 → List (List UInt8)
  | .literal c, text => restAfterBytes (bytes c.toString) text
  | .any, text => restAfter (fun byte => !slashIsSpecial || byte != slash) text
  | .star, text => restsWithin (fun byte => slashIsSpecial && byte == slash) text
  | .leadingAny, text => text :: restsAfterSlashes text
  | .trailingAny, text =>
      (restAfter (· == slash) text).flatMap (restsWithin fun _ => false)
  | .middleAny, text => if text.head? = some slash then restsAfterSlashes text else []
  | .oneOf negated ranges, text => restAfter (inClass negated ranges) text
  | .alternatives branches, text =>
      if areBlank branches then [text] else branchRests slashIsSpecial branches text

def branchRests (slashIsSpecial : Bool) : List (List GlobToken) → List UInt8 → List (List UInt8)
  | [], _ => []
  | branch :: rest, text =>
      (if isBlank branch then [] else sequenceRests slashIsSpecial branch [text])
        ++ branchRests slashIsSpecial rest text

def sequenceRests (slashIsSpecial : Bool) : List GlobToken → List (List UInt8) → List (List UInt8)
  | [], texts => texts
  | token :: rest, texts =>
      sequenceRests slashIsSpecial rest
        (distinct (texts.flatMap (tokenRests slashIsSpecial token)))

end

/-- Whether a pattern is `**` and nothing else. -/
def isEverything : List GlobToken → Bool
  | [.leadingAny] => true
  | _ => false

def isMatch (glob : Glob) (path : String) : Bool :=
  isEverything glob.tokens
    || ((!needsName glob.shape || hasName path)
      && (sequenceRests glob.options.slashIsSpecial glob.tokens [bytes path]).any List.isEmpty)

end Glob

end Waymark
