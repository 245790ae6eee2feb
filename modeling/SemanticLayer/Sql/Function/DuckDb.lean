import SemanticLayer.Sql.Function.Standard

/-!
# Functions of DuckDB
-/

namespace SemanticLayer.Sql.Calls

/-- A call with a meaning of its own in DuckDB. -/
def duckdbCall (name : String) (args : List Node) : Reading :=
  match name, args with
  | "DATE_TRUNC", unit :: this :: _ | "DATETRUNC", unit :: this :: _ =>
    counted args 2 3
      (if isDateCast this then .of (.call (.dateTrunc false)) [this, truncUnit true unit]
        else .of (.call (.dateTrunc true)) [this, timestampUnit unit])
  | "DATETRUNC", _ => some none
  | "DATEDIFF", [unit, a, b] | "DATE_DIFF", [unit, a, b] =>
    some (some (.known "DATEDIFF" "DATEDIFF" [b, a, unitWord unit]))
  | "DATEDIFF", _ | "DATE_DIFF", _ => some none
  | "REGEXP_MATCHES", [a, b] => some (some (.of (.binary .matchesPattern) [a, b]))
  | "REGEXP_MATCHES", _ => counted args 2 3 (.known "REGEXPLIKE" "REGEXP_LIKE" args)
  | "QUANTILE_CONT", _ => counted args 1 2 (.known "PERCENTILECONT" "PERCENTILE_CONT" args)
  | "QUANTILE_DISC", _ => counted args 1 2 (.known "PERCENTILEDISC" "PERCENTILE_DISC" args)
  | "STR_SPLIT", _ | "STRING_SPLIT", _ | "STRING_TO_ARRAY", _ =>
    counted args 2 3 (.known "SPLIT" "SPLIT" args)
  | "LIST_SORT", _ | "ARRAY_SORT", _ =>
    counted args 1 3 (.known "SORTARRAY" "SORT_ARRAY" (args.take 1))
  | "LIST_REVERSE_SORT", _ | "ARRAY_REVERSE_SORT", _ =>
    counted args 1 3 (.known "SORTARRAY" "SORT_ARRAY" (args.take 1 ++ [.of (.boolean false) []]))
  | "LIST_CONTAINS", _ | "LIST_HAS", _ =>
    counted args 2 3 (.known "ARRAYCONTAINS" "ARRAY_CONTAINS" args)
  | "LIST_HAS_ANY", _ => counted args 2 2 (.of (.binary .sharesItem) args)
  | "LIST_CONCAT", _ => counted args 1 args.length (.known "ARRAYCONCAT" "ARRAY_CONCAT" args)
  | "LIST_FILTER", _ => counted args 2 2 (.known "ARRAYFILTER" "FILTER" args)
  | "LIST_TRANSFORM", _ => counted args 2 2 (.known "TRANSFORM" "TRANSFORM" args)
  | "STR_SPLIT_REGEX", _ | "STRING_SPLIT_REGEX", _ =>
    counted args 2 3 (.known "REGEXPSPLIT" "REGEXP_SPLIT" args)
  | "EDITDIST3", _ => counted args 1 6 (.known "LEVENSHTEIN" "LEVENSHTEIN" args)
  | "JSON_EXTRACT_STRING", _ => jsonPart true args
  | "JSON_EXTRACT_PATH", _ => jsonPart false args
  | "DECODE", _ | "ENCODE", _ => counted args 1 3 (asWritten name (args.take 1))
  | "STRFTIME", _ | "STRPTIME", _ => counted args 2 4 (asWritten name (args.take 2))
  | "GENERATE_SERIES", [stop] | "RANGE", [stop] => some (some (asWritten name [.num "0", stop]))
  | "GENERATE_SERIES", _ | "RANGE", _ => counted args 2 3 (asWritten name args)
  | "XOR", [a, b] => some (some (.of (.binary .bitXor) [a, b]))
  | "SHA256", [a] => some (some (.known "SHA2" "SHA2" [a]))
  | "LIST_VALUE", _ => some (some (.of .array args))
  | "MAKE_DATE", _ => counted args 1 3 (.known "DATEFROMPARTS" "DATE_FROM_PARTS" args)
  | "REGEXP_EXTRACT", [this, pattern, group] =>
    let group := if group.head == .number "0" then [] else [group]
    some (some (asWritten name (this :: pattern :: group)))
  | "REGEXP_EXTRACT", [_, _, _, _] | "REGEXP_REPLACE", _ | "DATE_SUB", _ =>
    some (some (asWritten name args))
  | _, _ => none

end SemanticLayer.Sql.Calls
