/-!
# Syntax trees of SQL

A statement is a labelled tree: a *head* that says what the node is, with everything about it that
is no expression, the comments that belong to it, and its parts. Clauses are nodes too, so a query
is a list of clauses in which the reader of a tree looks for the ones it needs.
-/

namespace SemanticLayer.Sql

/-- A name, and whether it was written in quotes. -/
structure Ident where
  name : String
  quoted : Bool := false
  deriving DecidableEq, Repr

/-- The name of a table in a FROM clause, with names for its columns. -/
structure TableAlias where
  name : Option Ident
  columns : List Ident := []
  comments : List String := []
  /-- The number of a table that has no name. -/
  place : Nat := 0
  deriving DecidableEq, Repr

/-- Operators with one operand. -/
inductive UnaryOp where
  | not
  | minus
  | bitNot
  deriving DecidableEq, Repr

/-- Operators with two operands. -/
inductive BinaryOp where
  | and
  | or
  | xor
  | equal
  | notEqual
  | nullSafeEqual
  | distinctFrom
  | less
  | lessEqual
  | greater
  | greaterEqual
  | is
  | like
  | ilike
  | glob
  | matchesPattern
  /-- Compares with a pattern without regard to letter case. -/
  | matchesAnyCase
  | similarTo
  | escape
  | overlaps
  /-- The left array holds all items of the right one. -/
  | containsAll
  /-- Two arrays have an item in common. -/
  | sharesItem
  /-- The left range does not reach beyond the right one. -/
  | extendsLeft
  /-- The left range does not begin before the right one. -/
  | extendsRight
  /-- Two ranges touch. -/
  | adjacent
  /-- The part of a JSON value at a path of keys. -/
  | atPath
  /-- The text in a JSON value at a path of keys. -/
  | textAtPath
  /-- A JSON value has a key. -/
  | hasKey
  /-- A JSON value has one of several keys. -/
  | hasAnyKey
  /-- A JSON value has all of several keys. -/
  | hasAllKeys
  /-- A JSON value without what stands at a path of keys. -/
  | withoutPath
  /-- An operator by its name. -/
  | named (text : String)
  | bitAnd
  | bitOr
  | bitXor
  | shiftLeft
  | shiftRight
  /-- `||`, which joins strings. -/
  | join
  | add
  | subtract
  | modulo
  | collate
  | multiply
  /-- `/`; `typed` if integers divide to an integer, `safe` if division by zero gives null. -/
  | divide (typed safe : Bool)
  | intDivide
  /-- How far two points are apart. -/
  | distance
  | power
  | assign
  deriving DecidableEq, Repr

/-- What a call computes, as far as rendering depends on it. -/
inductive Function where
  /-- A function without rules of its own, by its kind and its name. -/
  | known (kind name : String)
  /-- A function that the grammar does not know. -/
  | unknown (name : String) (quoted : Bool)
  /-- A value named without parentheses, such as `CURRENT_DATE`. -/
  | constant (kind name : String)
  | currentTimestamp
  | length (bytes : Bool)
  | substring
  | trim (side : Option String)
  | concat
  /-- Joins the texts of a group; the parts are the text and the separator. -/
  | joinGroup
  /-- Cuts a date or timestamp; the parts are the value and the unit. -/
  | dateTrunc (timestamp : Bool)
  deriving DecidableEq, Repr

/-- One end of a window frame. Without a word it is the next part of the frame. -/
structure FrameBound where
  word : Option String
  side : Option String
  deriving DecidableEq, Repr

/-- What the size of a sample counts. -/
inductive SampleUnit where
  | rows
  | percent
  deriving DecidableEq, Repr

/-- What a number of rows says besides the number: that it counts percents, that it counts rows, and
that rows equal to the last one come too. -/
structure RowOptions where
  percent : Bool := false
  rows : Bool := false
  ties : Bool := false
  deriving DecidableEq, Repr

/-- The words for what a number of rows says besides the number. -/
def RowOptions.text (o : RowOptions) : String :=
  (if o.percent then " PERCENT" else "") ++ (if o.rows then " ROWS" else "") ++
    (if o.ties then " WITH TIES" else if o.rows then " ONLY" else "")

/-- One step of a path into a JSON value. -/
inductive PathStep where
  | key (name : String)
  | index (position : Int)
  | anyKey
  | anyIndex
  deriving DecidableEq, Repr

/-- What a node is. -/
inductive Head where
  -- Names and values
  | name (id : Ident)
  | column (path : List Ident)
  | star (qualifier : List Ident)
  | starClause (keyword : String)
  | string (text : String)
  | taggedString (tag : Char) (text : String)
  | number (text : String)
  | null
  | boolean (value : Bool)
  /-- A value that is filled in later, by its name or by its place. -/
  | placeholder (name : Option String)
  /-- A variable of the session. -/
  | parameter
  /-- A variable of the system; `scope` says whose. -/
  | systemVariable (scope : Option String)
  | keyword (text : String)
  -- Expressions
  | paren
  | tuple
  | unary (op : UnaryOp)
  | binary (op : BinaryOp)
  /-- In a tree that is fitted to a target, `guarded` says that the lower bound had an AND in it,
  outside parentheses around the whole of it. -/
  | between (symmetric : Option Bool) (guarded : Bool := false)
  /-- A value is an item of a JSON array. -/
  | memberOf
  /-- A column whose table has rows of nulls where the condition fails. -/
  | outerMark
  | inList
  | inQuery
  | inField
  | caseOf
  | caseOperand
  | caseArm
  | caseElse
  | ifThen
  /-- A conversion; the parts are the value and the type. -/
  | cast (lenient : Bool)
  /-- A data type; the parts are its sizes, or the types of what it holds. -/
  | dataType (name : String) (known : Bool)
  | typeSize (text : String)
  | typeField (name : Ident)
  | call (function : Function)
  | distinctArgs
  | orderedArg
  /-- Several arguments and an order of the rows after the last one. -/
  | orderedArgs
  | limitedArg
  | namedArg (name : String)
  /-- A function of the names; `worded` if it begins with the word LAMBDA. -/
  | lambda (names : List Ident) (worded : Bool)
  | nullsArg (keyword : String)
  /-- An argument with words after it that belong to the call, and what follows the words. -/
  | wordedArg (words : String)
  /-- An argument with a word before it. -/
  | leadingWord (word : String)
  | filter
  | withinGroup
  | window (name : Option Ident)
  /-- Rows of a group that come first or last in an order. -/
  | keep (name : Option Ident) (word : Option String)
  | windowDefinition (name : Ident) (base : Option Ident)
  | partitionBy
  | frame (kind : String) (start : FrameBound) (stop : Option FrameBound) (exclude : Option String)
  | exists
  | anyOf
  | allOf
  | interval (unit : Option String)
  | extract
  | atTimeZone
  | prior
  /-- The value at the root of a hierarchy. -/
  | connectRoot
  | nextValue
  /-- A search in columns; the parts are the text and the columns. -/
  | search (mode : String)
  | dot
  /-- An item of an array; the parts are the array and the positions, counted from zero. -/
  | index
  | slice
  | array
  /-- An item of an array for every item of another one; the parts are the item, the name of an item
  of the other array, that array, and the condition on its items. -/
  | comprehension
  /-- A record; the parts are its fields, or values without a name. -/
  | record
  | recordField
  | jsonPair
  /-- A table made of a JSON value; the parts are the value, perhaps a path, and the columns. -/
  | jsonTable (handling : String)
  | jsonColumns
  /-- A column of a table made of a JSON value; the parts are its type, its path and its columns. -/
  | jsonColumn (name : Option Ident) (ordinality : Bool)
  /-- A part of a JSON value; `arrow` if the value is known to be JSON. -/
  | jsonExtract (scalar arrow : Bool)
  | jsonPath (steps : List PathStep)
  | aliased (name : Ident)
  | aliases (names : List Ident)
  -- Queries
  | select
  | setOperation (op : String) (distinct : Bool) (byName : Bool)
  | subquery (label : Option TableAlias)
  | table (path : List Ident) (label : Option TableAlias)
  | tableCall (qualifier : List Ident) (label : Option TableAlias) (ordinality : Bool)
  | values (label : Option TableAlias)
  | unnest (label : Option TableAlias) (ordinality : Bool)
  /-- `apply` says how the rows are joined to the ones before, if that is not said elsewhere. -/
  | lateral (apply : Option String) (label : Option TableAlias)
  | lateralView (outer : Bool) (label : TableAlias)
  /-- A hint after a table; the parts are what it names. -/
  | tableHint (keyword : String)
  /-- Only the rows of a table itself are read. -/
  | tableOnly
  | tablePartition
  | tableVersion (words : String)
  | tableMoment (word kind : String)
  /-- Rows turned to columns or back; the parts are the values and the fields. -/
  | pivot (back : Bool) (nulls : Option Bool) (label : Option TableAlias)
  | pivotField
  /-- Rows of a table turned to columns or back, as a query of its own. -/
  | pivotQuery (back : Bool)
  /-- What such a query turns, names and computes, by the word in front of it. -/
  | pivotClause (word : String)
  -- Clauses of queries
  | withClause (recursive : Bool)
  | cte (label : TableAlias) (materialized : Option Bool)
  | distinct
  /-- A hint about how the query is run; the parts are calls, words, or the text as it is. -/
  | hint
  /-- A call in a hint, with arguments divided by blanks. -/
  | hintCall (name : String)
  /-- A word about how the query is run. -/
  | runOption (word : String)
  /-- What a row of the query is, other than a list of columns. -/
  | rowKind (keyword : String)
  | projections
  /-- The table that takes the rows of a query. -/
  | into
  | fromClause
  | join (method side kind : String)
  | onClause
  | usingClause
  | whereClause
  | startWith
  | connectBy (noCycle : Bool)
  | groupBy (modifier : String)
  | grouping (keyword : String)
  | having
  | qualify
  | windows
  | orderBy
  /-- An order of rows that are spread over several places. -/
  | sortClause (keyword : String)
  | ordered (descending : Option Bool) (nullsFirst : Bool)
  /-- Rows that fill the gaps of an order; the parts are its bounds. -/
  | fill
  | fillBound (keyword : String)
  /-- A number of rows; further parts are keys, for each of which it holds. -/
  | limit (options : RowOptions)
  | fetch (direction : String) (options : RowOptions)
  | offset
  /-- A lock on rows; the parts are the tables it is for. -/
  | lock (kind wait : String)
  /-- A sample of the rows of a table; the parts are its size and its seed. -/
  | sample (method : Option String) (unit : SampleUnit)
  -- Statements
  | insert (overwrite : Bool) (columns : List Ident)
  | update
  | setClause
  | delete
  | create (text : String)
  | drop (text : String)
  | truncate
  | describe
  | use (kind : String)
  | commit
  | rollback
  | transaction
  /-- A statement of which only the kind and the tables are kept. -/
  | statement (kind : String)
  /-- What a change of data gives back. -/
  | returning
  | command (word text : String)
  | semicolon
  deriving DecidableEq, Repr

/-- A node: its head, the comments that belong to it, and its parts. -/
inductive Node where
  | mk (head : Head) (comments : List String) (parts : List Node)
  deriving Repr

namespace Node

def head : Node → Head
  | mk h _ _ => h

def comments : Node → List String
  | mk _ c _ => c

def parts : Node → List Node
  | mk _ _ ps => ps

@[simp] theorem head_mk (h : Head) (c : List String) (ps : List Node) : (mk h c ps).head = h := rfl

@[simp] theorem comments_mk (h : Head) (c : List String) (ps : List Node) :
    (mk h c ps).comments = c := rfl

@[simp] theorem parts_mk (h : Head) (c : List String) (ps : List Node) :
    (mk h c ps).parts = ps := rfl

/-- A node without comments. -/
def of (h : Head) (ps : List Node) : Node := mk h [] ps

/-- The node with further comments after its own. -/
def addComments (cs : List String) : Node → Node
  | mk h c ps => mk h (c ++ cs) ps

def setComments (cs : List String) : Node → Node
  | mk h _ ps => mk h cs ps

def setParts (ps : List Node) : Node → Node
  | mk h c _ => mk h c ps

def addPart (n p : Node) : Node := mk n.head n.comments (n.parts ++ [p])

def first? (n : Node) : Option Node := n.parts.head?

/-- The first part whose head satisfies `p`. -/
def find? (p : Head → Bool) (n : Node) : Option Node := n.parts.find? fun c => p c.head

/-- The parts whose heads satisfy `p`. -/
def filter (p : Head → Bool) (n : Node) : List Node := n.parts.filter fun c => p c.head

mutual

/-- Whether `p` holds of the head of the node or of a node below it. -/
def any (p : Head → Bool) : Node → Bool
  | mk h _ ps => p h || anyOfList p ps

/-- Whether `p` holds of a head in one of the trees. -/
def anyOfList (p : Head → Bool) : List Node → Bool
  | [] => false
  | n :: ns => n.any p || anyOfList p ns

end

end Node

namespace Head

/-- A query: a SELECT, a set operation or a query in parentheses. -/
def isQuery : Head → Bool
  | select | setOperation .. | subquery _ => true
  | _ => false

/-- A query without parentheses of its own. -/
def isBareQuery : Head → Bool
  | select | setOperation .. => true
  | _ => false

/-- Whether clauses such as ORDER BY may follow. -/
def takesClauses : Head → Bool
  | table .. | tableCall .. => true
  | h => h.isQuery

def isWith : Head → Bool
  | withClause _ => true
  | _ => false

def isFrom : Head → Bool
  | fromClause => true
  | _ => false

def isJoin : Head → Bool
  | join .. => true
  | _ => false

def isLateral : Head → Bool
  | lateral .. | lateralView .. => true
  | _ => false

def isWhere : Head → Bool
  | whereClause => true
  | _ => false

def isHaving : Head → Bool
  | having => true
  | _ => false

def isProjections : Head → Bool
  | projections => true
  | _ => false

def isGroup : Head → Bool
  | groupBy _ => true
  | _ => false

def isGrouping : Head → Bool
  | grouping _ => true
  | _ => false

def isQualify : Head → Bool
  | qualify => true
  | _ => false

def isOrder : Head → Bool
  | orderBy => true
  | _ => false

def isLimit : Head → Bool
  | limit _ | fetch .. => true
  | _ => false

def isFetch : Head → Bool
  | fetch .. => true
  | _ => false

def isOffset : Head → Bool
  | offset => true
  | _ => false

def isInto : Head → Bool
  | into => true
  | _ => false

def isPivot : Head → Bool
  | pivot .. => true
  | _ => false

def isPivotField : Head → Bool
  | pivotField => true
  | _ => false

def isTableHint : Head → Bool
  | tableHint _ => true
  | _ => false

/-- Which state of a table is read. -/
def isTableState : Head → Bool
  | tablePartition | tableVersion _ | tableMoment .. => true
  | _ => false

def isRunOption : Head → Bool
  | runOption _ => true
  | _ => false

def isRowKind : Head → Bool
  | rowKind _ => true
  | _ => false

def isDistinct : Head → Bool
  | distinct => true
  | _ => false

def isHint : Head → Bool
  | hint => true
  | _ => false

def isLock : Head → Bool
  | lock .. => true
  | _ => false

def isSample : Head → Bool
  | sample .. => true
  | _ => false

def isConnectBy : Head → Bool
  | connectBy _ => true
  | _ => false

def isOn : Head → Bool
  | onClause => true
  | _ => false

def isFrame : Head → Bool
  | frame .. => true
  | _ => false

def isString : Head → Bool
  | string _ => true
  | _ => false

def isDataType : Head → Bool
  | dataType .. => true
  | _ => false

/-- The operators AND, OR and XOR. -/
def isConnector : Head → Bool
  | binary .and | binary .or | binary .xor => true
  | _ => false

/-- Operations with two operands, some of which are written as calls. -/
def isBinary : Head → Bool
  | binary _ | dot | jsonExtract .. => true
  | call (.known kind _) => ["POW", "REGEXPLIKE", "REGEXPILIKE"].contains kind
  | _ => false

def isDivision : Head → Bool
  | binary (.divide ..) => true
  | _ => false

def isAnd : Head → Bool
  | binary .and => true
  | _ => false

end Head

end SemanticLayer.Sql
