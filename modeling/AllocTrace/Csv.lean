import AllocTrace.Text.Utf8
import AllocTrace.Text.White

/-! Comma-separated text as bytes. A record ends at a carriage return or a line feed outside
quotes, and line breaks before a record's first byte are skipped, so there are no empty records.
A field is quoted only if its very first byte is a quote; what follows the closing quote is
taken as it stands.
-/

namespace AllocTrace.Csv

/-- Where the splitter stands in the current record. -/
inductive Mode where
  | recordStart
  | fieldStart
  | unquoted
  | quoted
  | closingQuote
deriving DecidableEq

/-- The undecoded fields of one record. -/
abbrev RawRecord := List (List UInt8)

/-- Progress through the bytes: the open field, the closed fields of the open record and the
closed records, each with its last element first.
-/
structure Splitter where
  mode : Mode
  field : List UInt8
  fields : List (List UInt8)
  records : List RawRecord
deriving DecidableEq

namespace Splitter

def start : Splitter :=
  { mode := .recordStart, field := [], fields := [], records := [] }

def isQuote (b : UInt8) : Bool := b == 0x22

def isComma (b : UInt8) : Bool := b == 0x2c

def isBreak (b : UInt8) : Bool := b == 0x0a || b == 0x0d

def append (s : Splitter) (mode : Mode) (b : UInt8) : Splitter :=
  { s with mode := mode, field := b :: s.field }

def closeField (s : Splitter) : Splitter :=
  { s with mode := .fieldStart, field := [], fields := s.field.reverse :: s.fields }

def closeRecord (s : Splitter) : Splitter :=
  {
    mode := .recordStart
    field := []
    fields := []
    records := (s.field.reverse :: s.fields).reverse :: s.records
  }

/-- A byte that no quote protects. -/
def pushBare (s : Splitter) (b : UInt8) : Splitter :=
  if isComma b then s.closeField
  else if isBreak b then s.closeRecord
  else s.append .unquoted b

/-- A byte at the very start of a field. -/
def pushFirst (s : Splitter) (b : UInt8) : Splitter :=
  if isQuote b then { s with mode := .quoted } else s.pushBare b

def push (s : Splitter) (b : UInt8) : Splitter :=
  match s.mode with
  | .recordStart => if isBreak b then s else s.pushFirst b
  | .fieldStart => s.pushFirst b
  | .unquoted => s.pushBare b
  | .quoted => if isQuote b then { s with mode := .closingQuote } else s.append .quoted b
  | .closingQuote => if isQuote b then s.append .quoted b else s.pushBare b

/-- The end of input closes an open record. -/
def finish (s : Splitter) : Splitter :=
  if s.mode = .recordStart then s else s.closeRecord

end Splitter

/-- Bytes to be read, whether reading fails after them instead of ending, and how many of them the
first read delivers at most.
-/
structure Source where
  bytes : List UInt8
  fails : Bool
  firstRead : Nat := bytes.length
deriving DecidableEq

namespace Source

def ofBytes (bytes : List UInt8) : Source :=
  { bytes := bytes, fails := false }

/-- A source whose first read fails, as that of a directory does. -/
def failing : Source :=
  { bytes := [], fails := true }

/-- The bytes of the text. A byte-order mark that the first read delivers is not part of it; if
that read delivers nothing else, the text counts as ended.
-/
def text (source : Source) : List UInt8 :=
  match source.bytes.take source.firstRead with
  | [0xef, 0xbb, 0xbf] => []
  | 0xef :: 0xbb :: 0xbf :: _ => source.bytes.drop 3
  | _ => source.bytes

/-- The records read in full, in order. A failure drops the record that it cuts off. It ends the
records and is none of them, as it would only repeat itself if reading went on.
-/
def records (source : Source) : List RawRecord :=
  let split := source.text.foldl Splitter.push .start
  (if source.fails then split else split.finish).records.reverse

end Source

/-- The cells of a record, if each is valid UTF-8. -/
def RawRecord.cells? (record : RawRecord) : Option (List String) :=
  record.mapM Text.decode?

/-- What reading delivers for one data record. -/
inductive Item where
  | row (cells : List String)
  | undecodable
deriving DecidableEq

def Item.ofRecord (record : RawRecord) : Item :=
  match record.cells? with
  | some cells => .row cells
  | none => .undecodable

/-- The item with the white space around its cells removed. -/
def Item.trimmed : Item → Item
  | .row cells => .row (cells.map Text.trim)
  | .undecodable => .undecodable

/-- A header and the data records below it. -/
structure Contents where
  header : List String
  items : List Item
deriving DecidableEq

/-- The first record is the header; one that cannot be read names no column. -/
def Source.contents (source : Source) : Contents :=
  match source.records with
  | [] => { header := [], items := [] }
  | first :: rest =>
    { header := first.cells?.getD [], items := rest.map Item.ofRecord }

/-- The contents with the white space around every name and cell removed. -/
def Contents.trimmed (contents : Contents) : Contents :=
  { header := contents.header.map Text.trim, items := contents.items.map Item.trimmed }

end AllocTrace.Csv
