import DryRun.Sql.Token

/-!
# Items of a statement

The grammar reads a statement as a list of items. An item is a lexeme together with its text in upper
case, which is computed once. A plain word is a keyword if it spells one; a few rules look at the
spelling alone, and then a name in back-ticks counts as well.

The tables below sort the keywords by where they can stand: as a name, as the alias of a table, as a
type, or before the arguments of a call.
-/

namespace DryRun.Grammar

open DryRun.Sql

/-- A lexeme and its text in upper case. -/
structure Item extends Lexeme where
  caps : Text
deriving DecidableEq, Repr

def Item.ofLexeme (l : Lexeme) : Item := ⟨l, Text.upper l.text⟩

/-- The words of a text that single spaces separate. -/
def wordsOf (t : String) : List Text :=
  match t.toList.foldr (fun c r => if c == ' ' then ([], r.1 :: r.2) else (c :: r.1, r.2)) ([], []) with
  | (first, rest) => first :: rest

namespace Item

def isWord (w : String) (i : Item) : Bool := i.kind == .word && i.caps == w.toList

def isOneOf (ws : List Text) (i : Item) : Bool := i.kind == .word && ws.contains i.caps

def isPhrase (p : String) (i : Item) : Bool := i.kind == .phrase && i.caps == p.toList

/-- Whether the item spells `w`, be it a word, a name in back-ticks or a marked string. -/
def spells (w : String) (i : Item) : Bool := i.kind != .string && i.caps == w.toList

def spellsOneOf (ws : List Text) (i : Item) : Bool := i.kind != .string && ws.contains i.caps

/-- Whether the item is a sign or an operator. -/
def isMark (i : Item) : Bool :=
  match i.kind with
  | .leftParen | .rightParen | .comma | .dot | .semicolon | .symbol => true
  | _ => false

/-- Whether the item is the sign or operator `s`. -/
def isSign (s : String) (i : Item) : Bool := i.isMark && i.text == s.toList

/-- Whether the item is one of the signs or operators `ss`. -/
def isSignOf (ss : List Text) (i : Item) : Bool := i.isMark && ss.contains i.text

end Item

/-! ## Names -/

/-- Keywords that are never a name. -/
def reservedWords : List Text :=
  wordsOf "ALTER AND AS BETWEEN CREATE CROSS DISTINCT DROP ELSE EXCEPT FETCH FOR FROM GLOB GRANT HAVING"
  ++ wordsOf "ILIKE IN INNER INSERT INTERSECT INTO JOIN LATERAL LIKE LIMIT MINUS NOT NOTNULL ON OR OUTER"
  ++ wordsOf "PARTITIONED_BY QUALIFY REGEXP RETURNING REVOKE RLIKE ROLLBACK SELECT SERDEPROPERTIES"
  ++ wordsOf "STRAIGHT_JOIN TABLESAMPLE THEN UNCACHE UNION USING VALUES WHEN WHERE WITH XOR"

/-- Keywords that are a name but not the alias of a table, since they begin a join or a window. -/
def joinWords : List Text := wordsOf "ANTI ASOF FULL LEFT LOCK NATURAL RIGHT SEMI WINDOW"

def typePhrases : List Text :=
  ["DOUBLE PRECISION".toList, "CHAR VARYING".toList, "CHARACTER VARYING".toList,
   "USER-DEFINED".toList]

def namePhrases : List Text := "FOREIGN KEY".toList :: (typePhrases ++ Lexeme.commandPhrases)

namespace Item

/-- Whether the item is a word that can be a name without back-ticks. -/
def isName (i : Item) : Bool :=
  match i.kind with
  | .word => !reservedWords.contains i.caps
  | .parameter | .suffix => true
  | .phrase => namePhrases.contains i.caps
  | _ => false

/-- Whether the item is a word that can be the alias of a table. -/
def isTableAlias (i : Item) : Bool := i.isName && !i.isOneOf joinWords

/-- Whether the item can be a name where any name is taken: anything but single signs, the equality
sign, `SELECT`, `NOT` and `UNKNOWN`. -/
def isAny (i : Item) : Bool :=
  match i.kind with
  | .word => !(wordsOf "SELECT NOT UNKNOWN").contains i.caps
  | .leftParen | .rightParen | .comma | .dot | .semicolon => false
  | .symbol => i.text.length > 1 && i.text != "==".toList
  | _ => true

end Item

/-! ## Types -/

/-- Keywords that begin a type with nested types. -/
def nestedTypeWords : List Text := wordsOf "ARRAY LIST MAP NULLABLE OBJECT RANGE STRUCT"

/-- Keywords that begin a type with named fields. -/
def structTypeWords : List Text := wordsOf "OBJECT STRUCT"

/-- Keywords that name a point in time. -/
def timeWords : List Text :=
  wordsOf "TIME TIMETZ TIME_NS TIMESTAMP TIMESTAMPTZ TIMESTAMPLTZ TIMESTAMP_LTZ TIMESTAMPNTZ TIMESTAMP_NTZ"

def typeWords : List Text :=
  nestedTypeWords ++ timeWords
  ++ wordsOf "BIT BOOL BOOLEAN BYTE TINYINT SMALLINT SHORT MEDIUMINT INT INTEGER BIGINT LONG HUGEINT"
  ++ wordsOf "INT1 INT2 INT4 INT8 INT16 INT32 INT64 INT128 INT256 UINT UINT128 UINT256 UHUGEINT"
  ++ wordsOf "DEC DECIMAL DECIMAL32 DECIMAL64 DECIMAL128 DECIMAL256 DECFLOAT BIGDECIMAL BIGNUMERIC"
  ++ wordsOf "BIGNUM FIXED NUMBER NUMERIC REAL FLOAT FLOAT4 FLOAT8 DOUBLE JSON JSONB CHAR CHARACTER"
  ++ wordsOf "NCHAR VARCHAR VARCHAR2 NVARCHAR NVARCHAR2 BPCHAR STR STRING TEXT LONGTEXT MEDIUMTEXT"
  ++ wordsOf "TINYTEXT CLOB LONGVARCHAR BINARY BLOB LONGBLOB MEDIUMBLOB TINYBLOB BYTEA VARBINARY DATE"
  ++ wordsOf "DATETIME INT4RANGE INT4MULTIRANGE INT8RANGE INT8MULTIRANGE NUMRANGE NUMMULTIRANGE TSRANGE"
  ++ wordsOf "TSMULTIRANGE TSTZRANGE TSTZMULTIRANGE DATERANGE DATEMULTIRANGE ENUM GEOGRAPHY GEOMETRY"
  ++ wordsOf "INET INTERVAL NULL UNKNOWN UUID VARIANT VECTOR"

namespace Item

/-- Whether the item names a type by itself. -/
def isType (i : Item) : Bool :=
  match i.kind with
  | .word => typeWords.contains i.caps
  | .suffix => true
  | .phrase => typePhrases.contains i.caps
  | _ => false

end Item

/-! ## Calls -/

/-- Keywords that are no name and no type but can stand before the arguments of a call. -/
def callWords : List Text := wordsOf "GLOB ILIKE INSERT LIKE RLIKE REGEXP UNION XOR"

/-- Keywords that are a name but cannot stand before the arguments of a call. -/
def uncallableWords : List Text :=
  wordsOf "ANALYZE ANTI APPLY ASC ASOF AUTOINCREMENT AUTO_INCREMENT BEGIN CACHE CASE COLUMN COMMENT"
  ++ wordsOf "COMMIT CONSTRAINT COPY CUBE DATABASE DEFAULT DELETE DESC DESCRIBE DIV END ESCAPE EXECUTE"
  ++ wordsOf "FALSE FULL FUNCTION IS KEEP KILL LOAD LOCK NAMESPACE NATURAL OPERATOR ORDINALITY OVER"
  ++ wordsOf "OVERLAPS OVERWRITE PARTITION PERCENT PIVOT PRAGMA PROCEDURE RECURSIVE REFERENCES REFRESH"
  ++ wordsOf "RENAME ROLLUP ROWS SCHEMA SEMI SESSION SET SETTINGS SHOW TEMP TEMPORARY TRUE UNIQUE UNPIVOT"
  ++ wordsOf "UPDATE USE VIEW VOLATILE"

namespace Item

/-- Whether a call can begin with the item. -/
def isCallable (i : Item) : Bool :=
  match i.kind with
  | .word =>
    callWords.contains i.caps ||
      (!reservedWords.contains i.caps && !uncallableWords.contains i.caps)
  | .parameter | .suffix | .quotedName => true
  | .phrase =>
    i.isPhrase "PRIMARY KEY" || typePhrases.contains i.caps || Lexeme.commandPhrases.contains i.caps
  | .symbol => i.isSignOf (wordsOf "~~~ ~~ ~~*")
  | _ => false

end Item

/-! ## Plain words -/

/-- All keywords of one word. -/
def keywords : List Text :=
  reservedWords ++ joinWords ++ typeWords ++ callWords ++ uncallableWords
  ++ wordsOf "ALL ANY CALL COLLATE CURRENT_CATALOG CURRENT_DATE CURRENT_SCHEMA CURRENT_TIME"
  ++ wordsOf "CURRENT_TIMESTAMP CURRENT_USER EXISTS EXPLAIN FILE FILTER FIRST FORMAT INDEX ISNULL"
  ++ wordsOf "LOCALTIME LOCALTIMESTAMP MERGE NEXT OFFSET OPTIMIZE PREPARE REPLACE ROW SEQUENCE"
  ++ wordsOf "SESSION_USER SOME TABLE TRUNCATE UNNEST VACUUM"

namespace Item

/-- Whether the item is a word that is no keyword. -/
def isPlain (i : Item) : Bool :=
  match i.kind with
  | .word => !keywords.contains i.caps
  | .parameter => true
  | _ => false

/-- Whether the item is the end of a frame, row count or similar, where `ROW`, `ROWS` and `PERCENT` are
no names. -/
def isCountName (i : Item) : Bool := i.isName && !i.isOneOf (wordsOf "ROW ROWS PERCENT")

end Item

end DryRun.Grammar
