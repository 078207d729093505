import DryRun.Grammar.Item

/-!
# Signatures of functions

How many arguments the known functions take. A call of a known function with too few or too many
arguments is malformed; a function that is not known takes any number, and names for them as well.
-/

namespace DryRun.Grammar

/-- The least number of arguments, and the largest if there is one. -/
structure Arity where
  least : Nat
  most : Option Nat
deriving DecidableEq, Repr

/-- Whether a call may have `n` arguments. -/
def Arity.allows (a : Arity) (n : Nat) : Bool := a.least ≤ n && a.most.all (n ≤ ·)

/-- The known functions by their numbers of arguments. -/
def signatures : List (Arity × List Text) :=
  [(⟨0, some 0⟩, wordsOf "PI"),
   (⟨0, some 1⟩, wordsOf
     "DAY MONTH YEAR DAYOFMONTH DAY_OF_MONTH DAYOFWEEK DAY_OF_WEEK DAYOFYEAR DAY_OF_YEAR WEEKOFYEAR NTILE ROW_NUMBER CURRENT_DATE CURRENT_TIME CURRENT_USER RANDN"),
   (⟨0, some 2⟩, wordsOf "CURRENT_TIMESTAMP UNIX_TIMESTAMP LAST_DAY MODE"),
   (⟨0, some 3⟩, wordsOf "RAND RANDOM UUID"),
   (⟨0, some 5⟩, wordsOf "DATEDIFF DATE_DIFF"),
   (⟨0, none⟩, wordsOf "COUNT ARRAY STRUCT MAP RANK DENSE_RANK PERCENT_RANK CUME_DIST ARRAYS_ZIP"),
   (⟨1, some 1⟩,
     wordsOf "ABS ACOS ACOSH ANY_VALUE ARRAY_COMPACT ARRAY_DISTINCT ARRAY_MAX ARRAY_MIN ASCII ASIN ASINH"
     ++ wordsOf "ATAN ATANH AVG BIT_AND BIT_OR BIT_XOR BIT_COUNT BOOL_AND BOOL_OR CBRT COLLECT_SET COS COSH COT"
     ++ wordsOf "COUNTIF COUNT_IF CRC32 DEGREES EXP FACTORIAL FIRST_VALUE FLATTEN FROM_BASE64 HEX HOUR INLINE"
     ++ wordsOf "ISNAN IS_NAN KURTOSIS LAST_VALUE LCASE LN LOGICAL_AND LOGICAL_OR LOWER MAP_FROM_ENTRIES MAP_KEYS"
     ++ wordsOf "MD5 MEDIAN MINUTE QUARTER RADIANS REVERSE SECOND SHA SHA1 SIGN SIGNUM SIN SINH SKEWNESS SOUNDEX"
     ++ wordsOf "SPACE SQRT STDDEV STDDEV_POP STDDEV_SAMP STDEV SUM TAN TANH TO_BASE64 TYPEOF UCASE UPPER VARIANCE"
     ++ wordsOf "VARIANCE_POP VARIANCE_SAMP VAR_POP VAR_SAMP"),
   (⟨1, some 2⟩,
     wordsOf "APPROX_COUNT_DISTINCT APPROX_DISTINCT ARRAY_AGG ARRAY_LENGTH ARRAY_SIZE ARRAY_SORT BASE64"
     ++ wordsOf "COLLECT_LIST EXISTS FROM_UNIXTIME INITCAP LAST_DAY_OF_MONTH LOG LOG10 LOG2 SHA2 SIZE UNHEX WEEK"),
   (⟨1, some 3⟩,
     wordsOf "CEILING CHARACTER_LENGTH CHAR_LENGTH LAG LEAD LEN LENGTH ROUND SORT_ARRAY SPLIT_PART SUBSTR PARSE_JSON"
     ++ wordsOf "TO_DATE"),
   (⟨1, some 4⟩, wordsOf "DATE_SUB LTRIM RTRIM STR_TO_MAP"),
   (⟨1, some 5⟩, wordsOf "TO_TIMESTAMP"),
   (⟨1, some 6⟩,
     wordsOf "BIGINT BINARY BOOLEAN DATE DOUBLE FLOAT INT INTEGER SMALLINT STRING TIMESTAMP TINYINT"),
   (⟨1, none⟩,
     wordsOf "ARRAY_CAT ARRAY_CONCAT ARRAY_INTERSECT COALESCE CONCAT CONCAT_WS EXPLODE EXPLODE_OUTER FIRST"
     ++ wordsOf "FORMAT_STRING GREATEST GROUPING GROUPING_ID IFNULL LAST LEAST MAX MIN NVL POSEXPLODE"
     ++ wordsOf "POSEXPLODE_OUTER STACK"),
   (⟨2, some 2⟩,
     wordsOf "ARRAY_APPEND ARRAY_EXCEPT ARRAY_FILTER ARRAY_POSITION ARRAY_PREPEND ARRAY_REMOVE ATAN2 CORR"
     ++ wordsOf "COVAR_POP COVAR_SAMP ENCODE ENDSWITH ENDS_WITH FILTER LEFT MAP_FROM_ARRAYS NEXT_DAY NULLIF POW"
     ++ wordsOf "POWER REPEAT RIGHT SAFE_DIVIDE STARTSWITH STARTS_WITH"),
   (⟨2, some 3⟩,
     wordsOf "ADD_MONTHS ARRAY_JOIN ARRAY_TO_STRING DATEADD DATE_ADD IIF MONTHS_BETWEEN NTH_VALUE NVL2 REPLACE"
     ++ wordsOf "SPLIT TIMESTAMPADD TRUNC"),
   (⟨2, some 4⟩,
     wordsOf "ARRAY_CONTAINS ARRAY_HAS DATE_FORMAT DATE_TRUNC INSTR LOCATE LPAD REGEXP_COUNT REGEXP_LIKE RLIKE"
     ++ wordsOf "RPAD SEQUENCE SLICE"),
   (⟨2, some 6⟩, wordsOf "LEVENSHTEIN"),
   (⟨2, some 7⟩, wordsOf "REGEXP_EXTRACT REGEXP_EXTRACT_ALL REGEXP_REPLACE"),
   (⟨2, none⟩,
     wordsOf "FROM_UTC_TIMESTAMP GET_JSON_OBJECT MOD SHIFTLEFT SHIFTRIGHT TO_UTC_TIMESTAMP"),
   (⟨3, some 3⟩, wordsOf "SUBSTRING_INDEX TRANSLATE"),
   (⟨3, some 4⟩, wordsOf "AGGREGATE ARRAY_INSERT REDUCE")]

/-- The numbers of arguments of a function whose name is given in upper case; none if it is not known. -/
def arity? (f : Text) : Option Arity :=
  (signatures.find? fun entry => entry.2.contains f).map Prod.fst

/-- Known functions that take `TRUE` as a second argument, to skip nulls. -/
def nullSkipping : List Text := wordsOf "ANY_VALUE FIRST FIRST_VALUE LAST LAST_VALUE"

/-- Known functions that summarise many rows. -/
def aggregates : List Text :=
  wordsOf "ANY_VALUE APPROX_COUNT_DISTINCT APPROX_DISTINCT ARRAY_AGG AVG BIT_AND BIT_OR BIT_XOR BOOL_AND"
  ++ wordsOf "BOOL_OR COLLECT_LIST COLLECT_SET CORR COUNT COUNTIF COUNT_IF COVAR_POP COVAR_SAMP FIRST"
  ++ wordsOf "FIRST_VALUE KURTOSIS LAG LAST LAST_VALUE LEAD LOGICAL_AND LOGICAL_OR MAX MEDIAN MIN MODE"
  ++ wordsOf "NTH_VALUE NTILE PERCENT_RANK RANK DENSE_RANK CUME_DIST SKEWNESS STDDEV STDDEV_POP STDDEV_SAMP STDEV"
  ++ wordsOf "SUM VARIANCE VARIANCE_POP VARIANCE_SAMP VAR_POP VAR_SAMP"

end DryRun.Grammar
