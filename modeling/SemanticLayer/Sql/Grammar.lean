import SemanticLayer.Sql.Vocabulary

/-!
# Grammars of SQL

A *grammar* says how one dialect's text is read: its quotes and comments, which marks may stand in
a word, which words it adds or reserves, what its operators mean, and where nulls stand in an order
that does not say. Queries are written in the neutral grammar `standard`; models and rendered text
are read in the grammar of the destination.
-/

namespace SemanticLayer.Sql

/-- Where nulls stand in an ascending order that does not say. -/
inductive NullOrder where
  | small
  | large
  /-- Last in both directions. -/
  | last
  deriving DecidableEq, Repr

/-- Whose functions a grammar knows besides the common ones. -/
inductive Catalogue where
  | standard
  | duckdb
  | postgres
  | mysql
  | oracle
  deriving DecidableEq, Repr

/-- How one dialect's text is read. -/
structure Grammar where
  /-- Quotes around names. -/
  nameQuotes : List Char := ['\x22']
  stringQuotes : List Char := ['\x27']
  /-- A backslash in quotes introduces an escape. -/
  backslashEscapes : Bool := false
  /-- Marks that begin a comment up to the end of the line. -/
  lineComments : List String := ["--"]
  nestedComments : Bool := true
  /-- Marks of their own beyond the common ones. -/
  extraMarks : List Char := []
  /-- Marks that may stand inside a word. -/
  innerMarks : List Char := []
  /-- Operators of several marks beyond the common ones. -/
  extraOperators : List String := []
  /-- Names may begin with a digit. -/
  digitNames : Bool := false
  /-- Underscores may separate the digits of a number. -/
  digitSeparators : Bool := false
  /-- Letters that tag a string, with the letter's meaning kept. -/
  stringTags : List Char := ['N', 'n']
  /-- Keywords of several words beyond the common ones. -/
  phrases : List (List String) := []
  /-- Words that are never plain names here beyond the common ones. -/
  reserved : List String := []
  /-- Keywords that may be called as functions here, though not elsewhere. -/
  callable : List String := []
  /-- Words read as another keyword. -/
  synonyms : List (String × String) := []
  /-- Data type names that differ from the common ones. -/
  typeNames : List (String × String) := []
  /-- Words that do not name a table here beyond the common ones. -/
  notTableAliases : List String := []
  /-- `||` joins strings; otherwise it is a disjunction. -/
  pipesJoin : Bool := true
  /-- `^` and `**` raise to a power. -/
  caretIsPower : Bool := false
  /-- The word DIV divides to an integer. -/
  hasDiv : Bool := true
  /-- `~` compares with a pattern. -/
  tildeMatches : Bool := false
  /-- A string may be an alias without AS. -/
  stringAliases : Bool := false
  nullOrder : NullOrder := .small
  /-- ORDER BY ALL orders by all columns. -/
  ordersAll : Bool := false
  /-- `/` on integers gives an integer. -/
  typedDivision : Bool := false
  /-- Division by zero gives null. -/
  safeDivision : Bool := false
  /-- A data type is changed as it is read. -/
  typeDefaults : List (String × List String) := []
  /-- Arrays may have a fixed number of items. -/
  sizedArrays : Bool := false
  /-- Types whose sizes are dropped as they are read. -/
  unsizedTypes : List String := []
  /-- A word that names no known type may name a type all the same. -/
  userTypes : Bool := true
  /-- Literals with a type in front that are calls: the type, the function and its format. -/
  literalCalls : List (String × String × String) := []
  /-- A dollar sign in front of a name stands for a value that is filled in later. -/
  dollarPlaceholders : Bool := false
  /-- A string may stand between two dollar signs with a tag of its own. -/
  dollarQuotes : Bool := false
  /-- Words after SELECT about how the query is run. -/
  runOptions : List String := []
  /-- Words that mean DISTINCT after SELECT. -/
  distinctWords : List String := []
  /-- TOP after SELECT gives a number of rows. -/
  hasTop : Bool := false
  /-- An alias may stand in front of what it names, with a colon between them. -/
  labels : Bool := false
  /-- A column may carry the mark of an outer join. -/
  outerMarks : Bool := false
  /-- KEEP after a call gives the rows of a group that it sees. -/
  hasKeep : Bool := false
  /-- A table may be followed by the partitions of it that are read. -/
  partitions : Bool := false
  /-- A percent sign stands for a value that is filled in later. -/
  percentPlaceholders : Bool := false
  /-- Comments that begin with a plus sign are hints. -/
  hints : Bool := true
  /-- The first position in an array. -/
  firstIndex : Nat := 0
  /-- A sample counts percents unless it says otherwise. -/
  samplesPercent : Bool := false
  /-- The sample of a table stands before its alias. -/
  samplesFirst : Bool := false
  /-- How samples of rows and of percents are taken if they do not say. -/
  sampleMethods : Option (String × String) := none
  calls : Catalogue := .standard
  deriving DecidableEq, Repr

namespace Grammar

/-- The neutral grammar in which queries are written. -/
def standard : Grammar := {}

def duckdb : Grammar where
  extraMarks := ['$']
  extraOperators := ["//", "**", "^@", "@>", "<@"]
  digitSeparators := true
  stringTags := ['N', 'n', 'E', 'e']
  reserved := ["ONLY", "POSITIONAL", "SUMMARIZE"]
  synonyms := [("EXCLUDE", "EXCEPT"), ("PIVOT_WIDER", "PIVOT"), ("MACRO", "FUNCTION")]
  typeNames := [("SIGNED", "INT"), ("LOGICAL", "BOOLEAN"), ("CHAR", "TEXT"), ("BPCHAR", "TEXT"),
    ("VARCHAR", "TEXT"), ("CHARACTER VARYING", "TEXT"), ("STRING", "TEXT"), ("INT8", "BIGINT"),
    ("BINARY", "VARBINARY"), ("BITSTRING", "BIT"), ("UBIGINT", "UBIGINT"), ("UINTEGER", "UINT"),
    ("USMALLINT", "USMALLINT"), ("UTINYINT", "UTINYINT"), ("TIMESTAMP_S", "TIMESTAMP_S"),
    ("TIMESTAMP_MS", "TIMESTAMP_MS"), ("TIMESTAMP_NS", "TIMESTAMP_NS")]
  caretIsPower := true
  nullOrder := .last
  ordersAll := true
  safeDivision := true
  typeDefaults := [("DECIMAL", ["18", "3"])]
  sizedArrays := true
  unsizedTypes := ["TEXT"]
  dollarPlaceholders := true
  dollarQuotes := true
  labels := true
  hints := false
  firstIndex := 1
  sampleMethods := some ("RESERVOIR", "SYSTEM")
  calls := .duckdb

def postgres : Grammar where
  extraMarks := ['$']
  innerMarks := ['$']
  extraOperators := ["||/", "|/", "@>", "<@", "?&", "?|", "#-", "@@"]
  stringTags := ['N', 'n', 'E', 'e', 'B', 'b', 'X', 'x']
  reserved := ["ONLY"]
  callable := ["DIV"]
  typeNames := [("INT8", "BIGINT"), ("FLOAT", "DOUBLE"), ("MONEY", "MONEY"), ("SERIAL", "SERIAL"),
    ("BIGSERIAL", "BIGSERIAL"), ("SMALLSERIAL", "SMALLSERIAL"), ("NAME", "NAME"),
    ("XML", "XML"), ("HSTORE", "HSTORE"), ("CSTRING", "CSTRING"), ("OID", "OID"),
    ("REGCLASS", "REGCLASS"), ("REGCOLLATION", "REGCOLLATION"), ("REGCONFIG", "REGCONFIG"),
    ("REGDICTIONARY", "REGDICTIONARY"), ("REGNAMESPACE", "REGNAMESPACE"), ("REGOPER", "REGOPER"),
    ("REGOPERATOR", "REGOPERATOR"), ("REGPROC", "REGPROC"), ("REGPROCEDURE", "REGPROCEDURE"),
    ("REGROLE", "REGROLE"), ("REGTYPE", "REGTYPE")]
  caretIsPower := true
  hasDiv := false
  tildeMatches := true
  nullOrder := .large
  typedDivision := true
  dollarQuotes := true
  percentPlaceholders := true
  hints := false
  firstIndex := 1
  samplesPercent := true
  calls := .postgres

def mysql : Grammar where
  nameQuotes := ['\x60']
  stringQuotes := ['\x27', '\x22']
  backslashEscapes := true
  lineComments := ["--", "#"]
  nestedComments := false
  innerMarks := ['@']
  extraOperators := ["@@"]
  digitNames := true
  stringTags := ['N', 'n', 'B', 'b', 'X', 'x']
  phrases := [["MEMBER", "OF"], ["SOUNDS", "LIKE"], ["SIGNED", "INTEGER"],
    ["UNSIGNED", "INTEGER"]]
  reserved := ["KEY", "FORCE", "IGNORE", "SEPARATOR", "%", "MEMBER OF", "SOUNDS LIKE"] ++
    Vocabulary.characterSets
  callable := ["CHARACTER SET", "VALUES", "DATABASE", "SCHEMA", "%"]
  synonyms := [("DISTINCTROW", "DISTINCT"), ("EXPLAIN", "DESCRIBE"), ("START", "BEGIN"),
    ("CHARSET", "CHARACTER SET"), ("MOD", "%")]
  typeNames := [("SIGNED", "BIGINT"), ("SIGNED INTEGER", "BIGINT"), ("UNSIGNED", "UBIGINT"),
    ("UNSIGNED INTEGER", "UBIGINT"), ("TIMESTAMP", "TIMESTAMPTZ"),
    ("YEAR", "YEAR"), ("BLOB", "BLOB"), ("ENUM", "ENUM")]
  notTableAliases := ["USE"]
  runOptions := ["HIGH_PRIORITY", "STRAIGHT_JOIN", "SQL_SMALL_RESULT", "SQL_BIG_RESULT",
    "SQL_BUFFER_RESULT", "SQL_NO_CACHE", "SQL_CALC_FOUND_ROWS"]
  partitions := true
  userTypes := false
  pipesJoin := false
  stringAliases := true
  nullOrder := .small
  safeDivision := true
  calls := .mysql

def oracle : Grammar where
  nestedComments := false
  innerMarks := ['@', '$', '#']
  extraOperators := ["(+)"]
  distinctWords := ["UNIQUE"]
  hasTop := true
  outerMarks := true
  hasKeep := true
  samplesPercent := true
  samplesFirst := true
  phrases := [["ORDER", "SIBLINGS", "BY"]]
  reserved := ["ORDER SIBLINGS BY", "MATCH_RECOGNIZE"]
  synonyms := [("MINUS", "EXCEPT"), ("SAMPLE", "TABLESAMPLE"), ("START", "BEGIN")]
  typeNames := [("BINARY_DOUBLE", "DOUBLE"), ("BINARY_FLOAT", "FLOAT")]
  nullOrder := .large
  literalCalls := [("DATE", "TO_DATE", "YYYY-MM-DD"),
    ("TIMESTAMP", "TO_TIMESTAMP", "YYYY-MM-DD HH24:MI:SS.FF6")]
  calls := .oracle

/-- Whether the character is a token of its own and ends a word. -/
def isMark (g : Grammar) (c : Char) : Bool := Vocabulary.marks.contains c || g.extraMarks.contains c

/-- The operators of several marks, longest first. -/
def operators (g : Grammar) : List String := g.extraOperators ++ Vocabulary.operators

/-- The keyword a word stands for. -/
def keyword (g : Grammar) (upper : String) : String := (g.synonyms.lookup upper).getD upper

/-- Whether the keyword may be a plain name. -/
def isName (g : Grammar) (key : String) : Bool :=
  !Vocabulary.reserved.contains key && !g.reserved.contains key

/-- Whether the keyword may name a table of a FROM clause. -/
def isTableAlias (g : Grammar) (key : String) : Bool :=
  g.isName key && !Vocabulary.notTableAliases.contains key && !g.notTableAliases.contains key

/-- Whether the keyword may be called as a function. -/
def isCallable (g : Grammar) (key : String) : Bool :=
  g.callable.contains key || !Vocabulary.notFunctions.contains key && !g.reserved.contains key

/-- The data type a word names. -/
def typeName? (g : Grammar) (key : String) : Option String :=
  (g.typeNames.lookup key).or (Vocabulary.types.lookup key)

/-- Whether the word is no keyword and names no type. -/
def isPlainWord (g : Grammar) (key : String) : Bool :=
  !(Vocabulary.reserved ++ Vocabulary.notFunctions ++ Vocabulary.softKeywords ++
    g.reserved).contains key &&
    (g.typeName? key).isNone

/-- The function and format that stand for a literal with the type in front. -/
def literalCall (g : Grammar) (type : String) : Option (String × String) :=
  g.literalCalls.lookup type

end Grammar

end SemanticLayer.Sql
