import DryRun.Grammar.Column

/-!
# Properties of a definition

What may stand before and after the name of an object that is created: storage, format, location,
comments, partitions and the like. A property begins with a word of its own, or is a key with a value
after an equality sign.
-/

namespace DryRun.Grammar

/-- A value after an optional equality sign and `AS`. -/
def assignedValue : Parse (Option Node) := do
  let _ ← sign "="
  let _ ← word "AS"
  call (.field false)

/-- A property that consists of its value. -/
def valueProperty : Parse (Option Node) := needed assignedValue

/-- A property without anything after its first word. -/
def plainProperty : Parse (Option Node) := return some .other

/-- A property that goes on with the given words, or is none, and then its word is put back. -/
def fixedProperty (ws : String) : Parse (Option Node) := do
  if ← spelledAll ws then return some .other
  else stepBack; return none

/-! ## Formats of rows and files -/

/-- Properties of the reader and writer of rows, after an optional `WITH`. -/
def serdeProperties : Parse (Option Node) := do
  let before ← get
  let _ ← spelled "WITH"
  if ← word "SERDEPROPERTIES" then
    let _ ← propertyList
    return some .other
  else set before; return none

/-- The format of rows after `ROW FORMAT`. -/
def rowFormatBody : Parse (Option Node) := do
  if ← spelled "SERDE" then
    let _ ← must stringOrPlaceholder
    let _ ← serdeProperties
    return some .other
  let _ ← spelled "DELIMITED"
  if ← spelledAll "FIELDS TERMINATED BY" then
    let _ ← stringOrPlaceholder
    if ← spelledAll "ESCAPED BY" then
      let _ ← stringOrPlaceholder
  if ← spelledAll "COLLECTION ITEMS TERMINATED BY" then
    let _ ← stringOrPlaceholder
  if ← spelledAll "MAP KEYS TERMINATED BY" then
    let _ ← stringOrPlaceholder
  if ← spelledAll "LINES TERMINATED BY" then
    let _ ← stringOrPlaceholder
  if ← spelledAll "NULL DEFINED AS" then
    let _ ← stringOrPlaceholder
  return some .other

def rowFormat : Parse (Option Node) :=
  onlyIf (acceptPair (·.isWord "ROW") (·.isWord "FORMAT")) rowFormatBody

/-- The format of a file after `STORED`. -/
def stored : Parse (Option Node) := do
  if ← spelled "BY" then needed wordOrString
  else
    let _ ← word "AS"
    let input ← onlyIf (spelled "INPUTFORMAT") stringOrPlaceholder
    let output ← onlyIf (spelled "OUTPUTFORMAT") stringOrPlaceholder
    if input.isNone && output.isNone then
      let _ ← firstOf [wordOrString, numberOrPlaceholder, name]
    return some .other

/-! ## Partitions and orders -/

/-- Columns and the number of buckets that rows go to by them. -/
def clustered : Parse (Option Node) := do
  let _ ← spelled "BY"
  let _ ← mustSome (parenList (call .column))
  if ← spelledAll "SORTED BY" then
    let _ ← parenList ordered
  let _ ← word "INTO"
  let _ ← must numberOrPlaceholder
  let _ ← spelled "BUCKETS"
  return some .other

/-- The columns or expression that rows are partitioned by. -/
def partitioned : Parse (Option Node) := do
  let _ ← sign "="
  match ← columnsOf none with
  | some n => return some n
  | none => needed (do withBrackets (← call (.field false)))

/-! ## Functions -/

/-- What a function gives back. -/
def returned : Parse (Option Node) := do
  if ← word "TABLE" then
    if ← sign "<" then
      let _ ← commaList structField
      mustSign ">"
    else
      let _ ← columnsOf (some .other)
  else if !(← spelledAll "NULL ON NULL INPUT") then
    let _ ← call (.type {})
  return some .other

/-! ## Other properties -/

/-- The versions of rows that are kept. -/
def versioning : Parse Unit := do
  let _ ← sign "="
  if !(← spelled "OFF") then
    let _ ← word "ON"
    if ← sign "(" then
      repeatWhile do
        if ← atEnd <||> sees (·.isSign ")") then return false
        if ← spelledAll "HISTORY_TABLE =" then
          let _ ← call (.table {})
        else if ← spelledAll "DATA_CONSISTENCY_CHECK =" then
          let _ ← anyItem
        else if ← spelledAll "HISTORY_RETENTION_PERIOD =" then
          let _ ← numberOrPlaceholder
          let _ ← variableWord true
        else need (← sign ",")
        return true
      mustSign ")"

/-- What stands after `WITH`. If nothing does that belongs to it, it is put back. -/
def withProperty : Parse (Option Node) := do
  let before ← get
  if ← spelledAll "( SYSTEM_VERSIONING" then
    versioning
    mustSign ")"
    return some .other
  if ← sees (·.isSign "(") then return (← propertyList).head?
  if ← spelled "JOURNAL" then
    let _ ← word "TABLE"
    let _ ← sign "="
    let _ ← must (call (.table { columns := true }))
    return some .other
  if (← spelledOneOf (wordsOf "ENCRYPTION SCHEMABINDING VIEW_METADATA")).isSome then return some .other
  if ← spelled "DATA" <||> spelledAll "NO DATA" then
    if !(← spelledAll "AND STATISTICS") then
      let _ ← spelledAll "AND NO STATISTICS"
    return some .other
  if ← sees (·.isWord "SERDEPROPERTIES") then return ← serdeProperties
  if ← word "SCHEMA" then
    let _ ← must (wordChoice true
      [("TYPE", ["EVOLUTION"]), ("BINDING", []), ("COMPENSATION", []), ("EVOLUTION", [])])
    return some .other
  if (← get).ahead.length < 2 then return none
  let _ ← spelled "NO"
  let _ ← spelled "CONCURRENT"
  if ← spelledAll "ISOLATED LOADING" then
    let _ ← wordChoice false [("FOR", ["ALL", "INSERT", "NONE"])]
    return some .other
  set before
  stepBack
  return none

/-- The table or place that a property names after `ON`, or what a commit does to the rows. -/
def onProperty : Parse (Option Node) := do
  if ← spelledAll "COMMIT PRESERVE ROWS" <||> spelledAll "COMMIT DELETE ROWS" then return some .other
  else needed (do columnsOf (← name))

/-- The least and largest key in parentheses. -/
def keyRange : Parse (Option Node) := do
  mustSign "("
  if ← spelled "MIN" then
    let _ ← must (firstOf [variableWord false, call .primary])
    let _ ← spelled "MAX"
  let _ ← must (firstOf [variableWord false, call .primary])
  mustSign ")"
  return some .other

/-- A kind with settings, in parentheses. -/
def settings : Parse (Option Node) := do
  mustSign "("
  let _ ← must name
  if ← sign "(" then
    let _ ← many (do
      let key ← name
      let value ← firstOf [call (.call false), primaryOrWord]
      if key.isNone && value.isNone then return none
      need key.isSome
      return some Node.other)
    let _ ← sign ")"
  mustSign ")"
  return some .other

/-- The owner of a definition. -/
def definer : Parse (Option Node) := do
  let _ ← sign "="
  let user ← name
  let _ ← accept fun i => i.isSign "@" || i.isSign "$"
  let host ← name
  let hosted ← if host.isSome then pure true else sign "%"
  return if user.isSome && hosted then some .other else none

/-- The name of a table after `TO`. -/
def toTable : Parse (Option Node) := needed (call (.tableName false))

/-- Words that are a property by themselves. -/
def plainProperties : List Text :=
  wordsOf "DETERMINISTIC DYNAMIC EMPTY EXTERNAL GLOBAL HEAP ICEBERG IMMUTABLE MATERIALIZED MULTISET SECURE"
  ++ wordsOf "SET STABLE STREAMING STRICT TEMP TEMPORARY TRANSIENT UNLOGGED VOLATILE"

/-- Words with a value after them. -/
def valueProperties : List Text :=
  wordsOf "ALGORITHM AUTO_INCREMENT COMMENT DISTSTYLE ENGINE EXECUTE LANGUAGE LOCATION ROW_FORMAT"

/-- The properties by their first word, which was taken. -/
def properties : List (String × Parse (Option Node)) :=
  [("ALLOWED_VALUES", do let _ ← mustSome (commaList (call .primary)); return some .other),
   ("AUTO", do
     if ← spelled "REFRESH" then valueProperty else stepBack; return none),
   ("BACKUP", needed (variableWord true)),
   ("CHECKSUM", do
     let _ ← sign "="
     if !(← word "ON") then
       let _ ← spelled "OFF"
     let _ ← word "DEFAULT"
     return some .other),
   ("CLUSTER BY", do let _ ← mustSome (commaList ordered); return some .other),
   ("CLUSTERED", clustered),
   ("CONTAINS", fixedProperty "SQL"),
   ("COPY", fixedProperty "GRANTS"),
   ("DEFINER", definer),
   ("DISTKEY", needed (parens name)),
   ("DUPLICATE", do
     let _ ← spelled "KEY"
     let _ ← mustSome nameList
     return some .other),
   ("ENVIRONMENT", do let _ ← mustSome (parenList (call .assignment)); return some .other),
   ("FORMAT", do let _ ← assignedValue; return some .other),
   ("FREESPACE", do
     let _ ← sign "="
     let _ ← must numberOrPlaceholder
     let _ ← word "PERCENT"
     return some .other),
   ("INHERITS", do let _ ← mustSome (parenList (call (.table {}))); return some .other),
   ("INPUT", needed (columnsOf none)),
   ("LAYOUT", settings),
   ("LIFETIME", keyRange),
   ("LIKE", likeTable),
   ("MODIFIES", fixedProperty "SQL DATA"),
   ("NO", do
     if ← spelledAll "PRIMARY INDEX" <||> spelled "SQL" then return some .other else return none),
   ("ON", onProperty),
   ("ORDER BY", do let _ ← mustSome (commaList ordered); return some .other),
   ("OUTPUT", needed (columnsOf none)),
   ("PARTITION", do
     if ← spelled "OF" then fault else stepBack; return none),
   ("PARTITION BY", partitioned),
   ("PARTITIONED BY", partitioned),
   ("PARTITIONED_BY", partitioned),
   ("PRIMARY KEY", do
     let _ ← accept fun i => i.isWord "ASC" || i.isWord "DESC"
     let _ ← mustSome (parenList (call (.field false)))
     indexParameters
     keyOptions
     return some .other),
   ("RANGE", keyRange),
   ("READS", fixedProperty "SQL DATA"),
   ("RETURNS", returned),
   ("ROW", do if ← word "FORMAT" then rowFormatBody else return none),
   ("SAMPLE", do
     if ← spelled "BY" then needed (call .bitwise) else fault),
   ("SECURITY", do
     return (← spelledOneOf (wordsOf "NONE DEFINER INVOKER")).map fun _ => .other),
   ("SERDEPROPERTIES", do let _ ← propertyList; return some .other),
   ("SETTINGS", do let _ ← mustSome (commaList (call .assignment)); return some .other),
   ("SHARING", do let _ ← assignedValue; return some .other),
   ("SORTKEY", do let _ ← mustSome nameList; return some .other),
   ("SOURCE", settings),
   ("STORED", stored),
   ("SYSTEM_VERSIONING", do versioning; return some .other),
   ("TBLPROPERTIES", do return (← propertyList).head?),
   ("TO", toTable),
   ("TRANSFORM", do let _ ← mustSome (parenList (call .expression)); return some .other),
   ("TTL", do
     let _ ← mustSome (commaList (call .bitwise))
     let _ ← whereClause
     return some .other),
   ("USING", do let _ ← assignedValue; return some .other),
   ("WITH", withProperty)]

/-- The properties that may have a modifying word before them. -/
def modifiedProperties : List (String × Parse (Option Node)) :=
  [("CHARSET", do let _ ← sign "="; needed wordOrString),
   ("COLLATE", valueProperty),
   ("DATABLOCKSIZE", do
     let _ ← sign "="
     let _ ← numberOrPlaceholder
     let _ ← spelledOneOf (wordsOf "BYTES KBYTES KILOBYTES")
     return some .other),
   ("FALLBACK", do let _ ← spelled "PROTECTION"; return some .other),
   ("JOURNAL", return some .other),
   ("LOG", return some .other),
   ("MERGEBLOCKRATIO", do
     if ← sign "=" then
       let _ ← numberOrPlaceholder
       let _ ← word "PERCENT"
     return some .other)]

/-- The property whose first word is at the front. Only some can have a modifying word before them. -/
def namedProperty (modified : Bool) : Parse (Option (Option Node)) := do
  match ← peek with
  | none => return none
  | some i =>
    if i.kind == .string then return none
    match modifiedProperties.find? fun p => p.1.toList == i.caps with
    | some p => advance; return some (← p.2)
    | none =>
      let plain :=
        if plainProperties.contains i.caps then some plainProperty
        else if valueProperties.contains i.caps then some valueProperty
        else (properties.find? fun p => p.1.toList == i.caps).map Prod.snd
      match plain with
      | some p =>
        need !modified
        advance
        return some (← p)
      | none => return none

/-! ## Sequences -/

def sequenceOption : Parse Bool := do
  if ← spelled "INCREMENT" then
    let _ ← spelled "BY"
    let _ ← spelled "="
    let _ ← call .term
    return true
  else if ← spelled "MINVALUE" <||> spelled "MAXVALUE" then
    let _ ← call .term
    return true
  else if ← spelledAll "START WITH" then
    let _ ← spelled "="
    let _ ← call .term
    return true
  else if ← spelled "CACHE" then
    let _ ← numberOrPlaceholder
    return true
  else if ← spelledAll "OWNED BY" then
    if !(← spelled "NONE") then
      let _ ← call .column
    return true
  else
    let found ← wordChoice false
      [("SCALE", ["EXTEND", "NOEXTEND"]), ("SHARD", ["EXTEND", "NOEXTEND"]),
       ("NO", ["CYCLE", "CACHE", "MAXVALUE", "MINVALUE"]), ("SESSION", []), ("GLOBAL", []), ("KEEP", []),
       ("NOKEEP", []), ("ORDER", []), ("NOORDER", []), ("NOCACHE", []), ("CYCLE", []), ("NOCYCLE", []),
       ("NOMINVALUE", []), ("NOMAXVALUE", []), ("NOSCALE", []), ("NOSHARD", [])]
    return found.isSome

/-- The options of a sequence of numbers, with commas between them; a comma alone counts. -/
def sequenceOptions : Parse (Option Node) := do
  let before ← get
  repeatWhile do
    if ← atEnd then return false
    let _ ← sign ","
    sequenceOption
  return if (← get).ahead.length == before.ahead.length then none else some .other

/-! ## Properties -/

/-- A key and its value, with an equality sign between them. -/
def keyProperty : Parse (Option Node) := do
  let before ← get
  let key ← call .column
  if ← sign "=" then
    need key.isSome
    let _ ← must (firstOf [call .bitwise, variableWord true])
    return some .other
  else set before; return none

def property : Parse (Option Node) := do
  match ← namedProperty false with
  | some p => return p
  | none =>
    if ← word "DEFAULT" then
      match ← namedProperty true with
      | some p => return p
      | none => generic
    else generic
where
  /-- A property that no word of its own begins. -/
  generic : Parse (Option Node) := do
    if ← spelledAll "COMPOUND SORTKEY" then
      let _ ← mustSome nameList
      return some .other
    if ← phrase "SQL SECURITY" then
      return (← spelledOneOf (wordsOf "DEFINER INVOKER")).map fun _ => .other
    firstOf [sequenceOptions, keyProperty]

/-- Properties one after the other, up to something else. -/
def propertiesAhead : Parse (List Node) := many property

/-- A property directly after a name, with its modifying words. -/
def modifiedProperty : Parse (Option Node) := do
  let _ ← sign ","
  let no ← spelled "NO"
  let dual ← spelled "DUAL"
  let before ← spelled "BEFORE"
  let byDefault ← spelled "DEFAULT"
  let placed ← spelled "LOCAL" <||> spelledAll "NOT LOCAL"
  let after ← spelled "AFTER"
  let least ← spelledOneOf (wordsOf "MIN MINIMUM")
  let largest ← spelledOneOf (wordsOf "MAX MAXIMUM")
  let modified :=
    no || dual || before || byDefault || placed || after || least.isSome || largest.isSome
  return (← namedProperty modified).getD none

/-- Properties directly after a name. -/
def modifiedPropertiesAhead : Parse (List Node) := many modifiedProperty

end DryRun.Grammar
