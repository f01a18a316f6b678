import RouterGate.Http.Header
import RouterGate.Net.Ip
import RouterGate.Text.Ascii
/-!
Messages as bytes: a first line, header fields, an empty line, and a body whose end the fields
tell. What is not all there yet is read as nothing, and read again when more has come.
-/
namespace RouterGate.Http

structure Head where
  first : String
  fields : Headers
  deriving DecidableEq, Repr

def lineEnd : Bytes := [0x0D, 0x0A]

def Header.line (field : Header) : Bytes :=
  Bytes.ofString field.name ++ [0x3A, 0x20] ++ field.value ++ lineEnd

namespace Head

def write (head : Head) : Bytes :=
  Bytes.ofString head.first ++ lineEnd ++ head.fields.flatMap Header.line ++ lineEnd

def characters (bytes : Bytes) : List Char :=
  bytes.map fun b => Char.ofNat b.toNat

def isBlankByte (b : UInt8) : Bool :=
  b == 0x20 || b == 0x09

/-- Blanks around a value do not belong to it. -/
def trimBlanks (value : Bytes) : Bytes :=
  ((value.dropWhile isBlankByte).reverse.dropWhile isBlankByte).reverse

/-- The lines up to an empty one, and what follows it. The line that is being read comes last
byte first. -/
def cutLines? (line : Bytes) : Bytes → Option (List Bytes × Bytes)
  | [] => none
  | b :: rest =>
      if b = 0x0A then
        let whole := if line.head? = some 0x0D then line.tail else line
        if whole.isEmpty then some ([], rest)
        else (cutLines? [] rest).map fun (lines, after) => (whole.reverse :: lines, after)
      else cutLines? (b :: line) rest

def isNameByte (b : UInt8) : Bool :=
  0x21 ≤ b && b < 0x7F && b != 0x3A

def field? (line : Bytes) : Option Header :=
  let name := line.takeWhile isNameByte
  match name, line.drop name.length with
  | _ :: _, 0x3A :: value =>
      if Header.isLegalValue (trimBlanks value) then
        some ⟨String.ofList (characters name), trimBlanks value⟩
      else none
  | _, _ => none

def read (bytes : Bytes) : Except Unit (Option (Head × Bytes)) :=
  match cutLines? [] bytes with
  | none => .ok none
  | some ([], _) => .error ()
  | some (first :: lines, rest) =>
      match lines.mapM field? with
      | none => .error ()
      | some fields => .ok (some (⟨String.ofList (characters first), fields⟩, rest))

end Head

inductive Framing where
  | counted (length : Nat)
  | chunked
  | toTheEnd
  deriving DecidableEq, Repr

/-- The framing that header fields tell; chunks win over a length. -/
def Framing.ofHeaders (fields : Headers) : Framing :=
  if (Headers.texts "transfer-encoding" fields).any fun codings =>
      Text.occursIn "chunked".toList (codings.map Char.toLower) then .chunked
  else
    match (Headers.firstText? "content-length" fields).bind Net.decimal? with
    | some length => .counted length
    | none => .toTheEnd

inductive ChunkStage where
  | size (soFar : Nat)
  | afterSize (size : Nat)
  | content (left : Nat)
  | afterContent
  | trailer (isEmptyLine : Bool)
  | finished
  | spoiled
  deriving DecidableEq, Repr

/-- The reader of a chunked body; what it collected comes last byte first. -/
structure ChunkReader where
  stage : ChunkStage
  collected : Bytes
  deriving DecidableEq, Repr

namespace ChunkReader

def start : ChunkReader := ⟨.size 0, []⟩

def enter (size : Nat) : ChunkStage :=
  if size = 0 then .trailer true else .content size

def sizeStep (soFar : Nat) (b : UInt8) : ChunkStage :=
  if b = 0x0A then enter soFar
  else if b = 0x0D || b = 0x3B then .afterSize soFar
  else
    match Text.Hex.value? (Char.ofNat b.toNat) with
    | some digit => .size (soFar * 16 + digit)
    | none => .spoiled

def trailerStep (isEmptyLine : Bool) (b : UInt8) : ChunkStage :=
  if b = 0x0A then (if isEmptyLine then .finished else .trailer true)
  else if b = 0x0D then .trailer isEmptyLine
  else .trailer false

def step (reader : ChunkReader) (b : UInt8) : ChunkReader :=
  match reader.stage with
  | .size soFar => { reader with stage := sizeStep soFar b }
  | .afterSize size => { reader with stage := if b = 0x0A then enter size else .afterSize size }
  | .content left =>
      ⟨if left ≤ 1 then .afterContent else .content (left - 1), b :: reader.collected⟩
  | .afterContent => { reader with stage := if b = 0x0A then .size 0 else .afterContent }
  | .trailer isEmptyLine => { reader with stage := trailerStep isEmptyLine b }
  | .finished => reader
  | .spoiled => reader

def read? (bytes : Bytes) : Option Bytes :=
  let reader := bytes.foldl step start
  if reader.stage = .finished then some reader.collected.reverse else none

end ChunkReader

def Framing.cut? (framing : Framing) (bytes : Bytes) : Option Bytes :=
  match framing with
  | .counted length => if length ≤ bytes.length then some (bytes.take length) else none
  | .chunked => ChunkReader.read? bytes
  | .toTheEnd => none

end RouterGate.Http
