import Mathlib.Data.List.Basic

/-!
# The token scan of the fence policy

How `pgelastic-proxy` reads SQL text: a simple query is split into the statements
PostgreSQL will run, each statement is cut into identifier-like tokens, and the tokens
decide whether it commits, may write, or provably only reads.  Text is a list of bytes.

The scan is a whitelist.  Anything it does not recognise is a write.
-/

namespace PgElastic.Epoch

/-- The bytes of a word of the policy's own vocabulary. -/
def ascii (word : String) : List UInt8 :=
  word.toList.map fun c => c.toNat.toUInt8

def isAsciiUpper (byte : UInt8) : Bool := 65 ≤ byte && byte ≤ 90

def isAsciiLower (byte : UInt8) : Bool := 97 ≤ byte && byte ≤ 122

def isAsciiDigit (byte : UInt8) : Bool := 48 ≤ byte && byte ≤ 57

def isAsciiAlphanumeric (byte : UInt8) : Bool :=
  isAsciiUpper byte || isAsciiLower byte || isAsciiDigit byte

/-- Space, tab, line feed, form feed and carriage return. -/
def isAsciiWhitespace (byte : UInt8) : Bool :=
  byte == 32 || byte == 9 || byte == 10 || byte == 12 || byte == 13

def toAsciiLower (byte : UInt8) : UInt8 := if isAsciiUpper byte then byte + 32 else byte

namespace Byte

def newline : UInt8 := 10
def doubleQuote : UInt8 := 34
def dollar : UInt8 := 36
def singleQuote : UInt8 := 39
def star : UInt8 := 42
def dash : UInt8 := 45
def slash : UInt8 := 47
def semicolon : UInt8 := 59
def underscore : UInt8 := 95

end Byte

/-- A byte that can stand inside an identifier or a dollar-quote tag. -/
def isWordByte (byte : UInt8) : Bool := isAsciiAlphanumeric byte || byte == Byte.underscore

/-- `eq_ignore_ascii_case` against a word of the vocabulary. -/
def eqWord (token : List UInt8) (word : String) : Bool :=
  token.map toAsciiLower == (ascii word).map toAsciiLower

/-- Splits on everything that cannot appear inside an identifier, so `committed_at` is
not `COMMIT`. -/
def tokenize (sql : List UInt8) : List (List UInt8) :=
  (sql.splitOnP fun byte => !isWordByte byte).filter fun token => !token.isEmpty

/-! ### Statement classification -/

/-- Whether a statement ends a transaction by making its writes durable.
`PREPARE TRANSACTION` counts. -/
def isCommit (sql : List UInt8) : Bool :=
  let tokens := tokenize sql
  let first := tokens.head?.getD []
  eqWord first "commit" || eqWord first "end" ||
    (eqWord first "prepare" && tokens[1]?.any fun token => eqWord token "transaction")

/-- Built-in functions that write even inside a statement that reads. -/
def writeFunctions : List String :=
  ["nextval", "setval", "dblink_exec", "pg_logical_emit_message",
    "pg_create_restore_point", "pg_replication_origin_advance"]

/-- Transaction and session control, which writes no data of its own. -/
def controlWords : List String :=
  ["show", "fetch", "begin", "start", "commit", "end", "rollback", "abort", "savepoint",
    "release", "set", "reset", "discard", "close", "deallocate", "unlisten"]

/-- Whether a statement might write: false only for what provably cannot. -/
def mayWrite (sql : List UInt8) : Bool :=
  let tokens := tokenize sql
  match tokens with
  | [] => false
  | first :: _ =>
    let has := fun word => tokens.any fun token => eqWord token word
    let callsAWritingFunction :=
      tokens.any fun token => writeFunctions.any fun name => eqWord token name
    if eqWord first "select" || eqWord first "table" || eqWord first "values" then
      -- A locking clause blocks other writers, and `SELECT INTO` creates a table.
      has "update" || has "share" || has "into" || callsAWritingFunction
    else if eqWord first "explain" then
      has "analyze" || callsAWritingFunction
    else
      !controlWords.any fun control => eqWord first control

/-- What a request would do if it completed, ordered by how much a mistake costs. -/
inductive Kind
  | read
  | write
  | commit
  deriving DecidableEq, Repr

namespace Kind

def rank : Kind → Nat
  | read => 0
  | write => 1
  | commit => 2

/-- A batch is as undecidable as its most undecidable statement. -/
def max (left right : Kind) : Kind := if left.rank ≤ right.rank then right else left

end Kind

def classify (sql : List UInt8) : Kind :=
  if isCommit sql then .commit
  else if mayWrite sql then .write
  else .read

/-! ### Splitting a simple query

The source walks an index over the text and jumps over each literal and comment.  Here
the length of every such jump is computed first, and the walk carries the number of
bytes that are still inside it. -/

/-- Bytes from just after an opening quote through the closing one; doubling escapes,
and an unterminated literal takes the rest. -/
def quotedLength (delimiter : UInt8) : List UInt8 → Nat
  | [] => 0
  | [_] => 1
  | byte :: next :: rest =>
    if byte ≠ delimiter then 1 + quotedLength delimiter (next :: rest)
    else if next = delimiter then 2 + quotedLength delimiter rest
    else 1

/-- Where a tag first stands as a window of the text. -/
def findTag (tag : List UInt8) : List UInt8 → Option Nat
  | [] => none
  | byte :: rest =>
    if tag.isPrefixOf (byte :: rest) then some 0 else (findTag tag rest).map (· + 1)

/-- Bytes of the dollar-quoted body that opens with a `$` and continues with `rest`, or
just the `$` when no opener stands there. -/
def dollarQuotedLength (rest : List UInt8) : Nat :=
  match rest.findIdx? (· == Byte.dollar) with
  | none => 1
  | some offset =>
    if (rest.take offset).all isWordByte then
      let tag := Byte.dollar :: rest.take (offset + 1)
      let body := rest.drop (offset + 1)
      match findTag tag body with
      | some found => tag.length + found + tag.length
      | none => tag.length + body.length
    else 1

/-- Bytes through the end of the line. -/
def lineCommentLength (text : List UInt8) : Nat :=
  match text.findIdx? (· == Byte.newline) with
  | some index => index + 1
  | none => text.length

/-- Bytes of a block comment; PostgreSQL's block comments nest, so the depth is
counted. -/
def blockCommentLength : (depth : Nat) → List UInt8 → Nat
  | _, [] => 0
  | _, [_] => 1
  | depth, byte :: next :: rest =>
    if byte = Byte.slash ∧ next = Byte.star then 2 + blockCommentLength (depth + 1) rest
    else if byte = Byte.star ∧ next = Byte.slash then
      if depth = 1 then 2 else 2 + blockCommentLength (depth - 1) rest
    else 1 + blockCommentLength depth (next :: rest)

/-- Bytes the scan jumps over when it stands at `byte`. -/
def lexemeLength (byte : UInt8) (rest : List UInt8) : Nat :=
  if byte = Byte.singleQuote ∨ byte = Byte.doubleQuote then 1 + quotedLength byte rest
  else if byte = Byte.dollar then dollarQuotedLength rest
  else if byte = Byte.dash ∧ rest.head? = some Byte.dash then lineCommentLength (byte :: rest)
  else if byte = Byte.slash ∧ rest.head? = some Byte.star then
    blockCommentLength 0 (byte :: rest)
  else 1

/-- The scan: `skip` bytes are still inside a literal or comment, and `current` is the
statement so far, last byte first. -/
def scanStatements : (skip : Nat) → (current : List UInt8) → List UInt8 → List (List UInt8)
  | _, current, [] => [current.reverse]
  | skip + 1, current, byte :: rest => scanStatements skip (byte :: current) rest
  | 0, current, byte :: rest =>
    if byte = Byte.semicolon then current.reverse :: scanStatements 0 [] rest
    else scanStatements (lexemeLength byte rest - 1) (byte :: current) rest

/-- Splits a simple-query string at its top-level semicolons and drops the blank
pieces. -/
def splitStatements (sql : List UInt8) : List (List UInt8) :=
  (scanStatements 0 [] sql).filter fun statement => !statement.all isAsciiWhitespace

example : (splitStatements (ascii "BEGIN; INSERT INTO t VALUES (';'); COMMIT")).map classify =
      [.read, .write, .commit] := by
  decide

/-! ### What a read can do -/

section

open List

variable {blank keyword sql rest : List UInt8}

end

end PgElastic.Epoch
