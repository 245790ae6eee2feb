/-!
# Signatures of functions

A known function has a *signature*: how many arguments it takes, and the name under which it is
written whatever name it was called by.
-/

namespace SemanticLayer.Sql

/-- A known function: its kind, the name it is written under, and how many arguments it takes. -/
structure Signature where
  kind : String
  name : String
  least : Nat
  /-- No bound if there is none. -/
  most : Option Nat
  deriving DecidableEq, Repr

namespace Signature

/-- Whether a call may have this many arguments. -/
def allows (s : Signature) (n : Nat) : Bool := s.least ≤ n && s.most.all (n ≤ ·)

/-- A function whose kind is its name. -/
def plain (name : String) (least : Nat) (most : Option Nat) : String × Signature :=
  (name, { kind := name, name, least, most })

/-- A function that is known by several names and written under the first one. -/
def named (kind : String) (names : List String) (least : Nat) (most : Option Nat) :
    List (String × Signature) :=
  names.map fun n => (n, { kind, name := names.headD kind, least, most })

/-- Functions that combine rows. -/
def aggregateTable : List (String × Signature) :=
  [plain "COUNT" 0 none, plain "SUM" 1 (some 1), plain "AVG" 1 (some 1), plain "MIN" 1 none,
    plain "MAX" 1 none, plain "MEDIAN" 1 (some 1), plain "MODE" 0 (some 2)] ++
  named "COUNTIF" ["COUNT_IF", "COUNTIF"] 1 (some 1) ++
  named "APPROXDISTINCT" ["APPROX_DISTINCT", "APPROX_COUNT_DISTINCT"] 1 (some 2) ++
  named "VARIANCE" ["VARIANCE", "VARIANCE_SAMP", "VAR_SAMP"] 1 (some 1) ++
  named "VARIANCEPOP" ["VARIANCE_POP", "VAR_POP"] 1 (some 1) ++
  named "STDDEV" ["STDDEV", "STDEV"] 1 (some 1) ++
  named "STDDEVPOP" ["STDDEV_POP"] 1 (some 1) ++ named "STDDEVSAMP" ["STDDEV_SAMP"] 1 (some 1) ++
  named "LOGICALAND" ["LOGICAL_AND", "BOOL_AND", "BOOLAND_AGG"] 1 (some 1) ++
  named "LOGICALOR" ["LOGICAL_OR", "BOOL_OR", "BOOLOR_AGG"] 1 (some 1) ++
  named "ARGMAX" ["ARG_MAX", "ARGMAX", "MAX_BY"] 2 (some 3) ++
  named "ARGMIN" ["ARG_MIN", "ARGMIN", "MIN_BY"] 2 (some 3) ++
  named "ANYVALUE" ["ANY_VALUE"] 1 (some 1) ++
  named "ARRAYAGG" ["ARRAY_AGG", "ARRAYAGG"] 1 (some 2) ++
  named "ARRAYUNIQUEAGG" ["ARRAY_UNIQUE_AGG"] 1 (some 1) ++
  named "BITWISEANDAGG" ["BITWISE_AND_AGG"] 1 (some 1) ++
  named "BITWISEORAGG" ["BITWISE_OR_AGG"] 1 (some 1) ++
  named "BITWISEXORAGG" ["BITWISE_XOR_AGG"] 1 (some 1) ++
  named "PERCENTILECONT" ["PERCENTILE_CONT"] 1 (some 2) ++
  named "PERCENTILEDISC" ["PERCENTILE_DISC"] 1 (some 2) ++
  named "FIRSTVALUE" ["FIRST_VALUE"] 1 (some 1) ++ named "LASTVALUE" ["LAST_VALUE"] 1 (some 1) ++
  named "NTHVALUE" ["NTH_VALUE"] 2 (some 2) ++
  [plain "LAG" 1 (some 3), plain "LEAD" 1 (some 3), plain "FIRST" 1 (some 1),
    plain "LAST" 1 (some 1), plain "QUANTILE" 2 (some 2), plain "CORR" 2 (some 2)] ++
  named "COVARPOP" ["COVAR_POP"] 2 (some 2) ++ named "COVARSAMP" ["COVAR_SAMP"] 2 (some 2) ++
  named "APPROXQUANTILE" ["APPROX_QUANTILE"] 2 (some 4)

/-- Functions of single values. -/
def scalarTable : List (String × Signature) :=
  [plain "ABS" 1 (some 1), plain "SQRT" 1 (some 1), plain "EXP" 1 (some 1), plain "LN" 1 (some 1),
    plain "CBRT" 1 (some 1), plain "NULLIF" 2 (some 2), plain "GREATEST" 1 none,
    plain "LEAST" 1 none, plain "LEFT" 2 (some 2), plain "RIGHT" 2 (some 2),
    plain "ROUND" 1 (some 3), plain "REPLACE" 2 (some 3), plain "EXISTS" 1 (some 2),
    plain "REVERSE" 1 (some 1), plain "REPEAT" 2 (some 2), plain "INITCAP" 1 (some 2),
    plain "TRANSLATE" 3 (some 3), plain "ASCII" 1 (some 1), plain "UNICODE" 1 (some 1),
    plain "LEVENSHTEIN" 1 (some 6), plain "MD5" 1 (some 1), plain "SPLIT" 2 (some 3),
    plain "NVL2" 2 (some 3), plain "DATE" 0 none, plain "DAY" 1 (some 1), plain "WEEK" 1 (some 2),
    plain "MONTH" 1 (some 1), plain "YEAR" 1 (some 1), plain "QUARTER" 1 (some 1),
    plain "TIMESTAMP" 0 (some 3), plain "EXPLODE" 1 none, plain "POSEXPLODE" 1 none,
    plain "SPACE" 1 (some 1), plain "STRING" 1 (some 2), plain "INT64" 1 (some 1),
    plain "TIME" 0 (some 2), plain "DATETIME" 1 (some 2)] ++
  named "CONCATWS" ["CONCAT_WS"] 1 none ++
  named "UPPER" ["UPPER", "UCASE"] 1 (some 1) ++ named "LOWER" ["LOWER", "LCASE"] 1 (some 1) ++
  named "SIGN" ["SIGN", "SIGNUM"] 1 (some 1) ++
  named "COALESCE" ["COALESCE", "IFNULL", "NVL"] 1 none ++
  named "POW" ["POWER", "POW"] 2 (some 2) ++
  named "RAND" ["RAND", "RANDOM"] 0 (some 3) ++
  named "SHA" ["SHA", "SHA1"] 1 (some 1) ++ named "SHA2" ["SHA2"] 1 (some 2) ++
  named "STARTSWITH" ["STARTS_WITH", "STARTSWITH"] 2 (some 2) ++
  named "ENDSWITH" ["ENDS_WITH", "ENDSWITH"] 2 (some 2) ++
  named "REGEXPREPLACE" ["REGEXP_REPLACE"] 2 (some 6) ++
  named "REGEXPEXTRACT" ["REGEXP_EXTRACT"] 2 (some 6) ++
  named "SAFEDIVIDE" ["SAFE_DIVIDE"] 2 (some 2) ++
  named "TOCHAR" ["TO_CHAR"] 1 (some 3) ++ named "TONUMBER" ["TO_NUMBER"] 1 (some 5) ++
  named "TIMETOSTR" ["TIME_TO_STR"] 2 (some 4) ++
  named "STRTODATE" ["STR_TO_DATE"] 1 (some 3) ++ named "STRTOTIME" ["STR_TO_TIME"] 2 (some 4) ++
  named "DAYOFWEEK" ["DAY_OF_WEEK", "DAYOFWEEK"] 1 (some 1) ++
  named "DAYOFWEEKISO" ["DAYOFWEEK_ISO", "ISODOW"] 1 (some 1) ++
  named "DAYOFMONTH" ["DAY_OF_MONTH", "DAYOFMONTH"] 1 (some 1) ++
  named "DAYOFYEAR" ["DAY_OF_YEAR", "DAYOFYEAR"] 1 (some 1) ++
  named "WEEKOFYEAR" ["WEEK_OF_YEAR", "WEEKOFYEAR"] 1 (some 1) ++
  named "DATEFROMPARTS" ["DATE_FROM_PARTS", "DATEFROMPARTS"] 1 (some 3) ++
  named "LASTDAY" ["LAST_DAY", "LAST_DAY_OF_MONTH"] 1 (some 2) ++
  named "MONTHSBETWEEN" ["MONTHS_BETWEEN"] 2 (some 3) ++
  named "ADDMONTHS" ["ADD_MONTHS"] 2 (some 2) ++
  named "ARRAYCONCAT" ["ARRAY_CONCAT", "ARRAY_CAT"] 1 none ++
  named "ARRAYCONTAINS" ["ARRAY_CONTAINS", "ARRAY_HAS"] 2 (some 3) ++
  named "ARRAYSIZE" ["ARRAY_SIZE", "ARRAY_LENGTH"] 1 (some 2) ++
  named "ARRAYTOSTRING" ["ARRAY_TO_STRING", "ARRAY_JOIN"] 2 (some 3) ++
  named "PARSEJSON" ["PARSE_JSON", "JSON_PARSE"] 1 (some 3) ++
  named "ISNAN" ["IS_NAN", "ISNAN"] 1 (some 1) ++ named "ISINF" ["IS_INF", "ISINF"] 1 (some 1) ++
  named "HEX" ["HEX", "TO_HEX"] 1 (some 1) ++ named "ENCODE" ["ENCODE"] 2 (some 2) ++
  named "STUFF" ["STUFF", "INSERT"] 4 (some 4) ++
  named "NUMBERTOSTR" ["NUMBER_TO_STR"] 2 (some 3) ++
  named "JSONFORMAT" ["JSON_FORMAT"] 1 (some 3) ++
  named "MD5DIGEST" ["MD5_DIGEST"] 1 none ++ named "EQUALNULL" ["EQUAL_NULL"] 2 (some 2) ++
  named "SORTARRAY" ["SORT_ARRAY"] 1 (some 2) ++
  named "ARRAYFILTER" ["FILTER", "ARRAY_FILTER"] 2 (some 2) ++
  named "TRANSFORM" ["TRANSFORM"] 2 (some 2) ++
  named "REGEXPSPLIT" ["REGEXP_SPLIT"] 2 (some 3) ++
  named "TODOUBLE" ["TO_DOUBLE"] 1 (some 3) ++
  named "STRUCTEXTRACT" ["STRUCT_EXTRACT"] 2 (some 2) ++
  named "STRINGTOARRAY" ["STRING_TO_ARRAY", "SPLIT_BY_STRING", "STRTOK_TO_ARRAY"] 1 (some 3) ++
  named "STPOINT" ["ST_POINT", "ST_MAKEPOINT"] 2 (some 3) ++
  named "ARRAYINTERSECT" ["ARRAY_INTERSECT", "ARRAY_INTERSECTION"] 1 none ++
  named "ARRAYSUM" ["ARRAY_SUM"] 1 (some 2) ++ named "ARRAYANY" ["ARRAY_ANY"] 2 (some 2) ++
  named "ARRAYREMOVE" ["ARRAY_REMOVE"] 2 (some 2) ++
  named "JSONEXTRACTARRAY" ["JSON_EXTRACT_ARRAY"] 1 (some 2) ++
  named "JSONBEXISTS" ["JSONB_EXISTS"] 1 (some 2) ++
  named "COSINEDISTANCE" ["COSINE_DISTANCE"] 2 (some 2) ++
  named "EUCLIDEANDISTANCE" ["EUCLIDEAN_DISTANCE"] 2 (some 2)

/-- Functions that turn times into other forms and back. -/
def timeTable : List (String × Signature) :=
  named "STRTOUNIX" ["STR_TO_UNIX"] 1 (some 2) ++ named "UNIXTOTIME" ["UNIX_TO_TIME"] 1 (some 6) ++
  named "UNIXTOSTR" ["UNIX_TO_STR"] 1 (some 2) ++
  named "UNIXTOTIMESTR" ["UNIX_TO_TIME_STR"] 1 (some 1) ++
  named "TIMETOUNIX" ["TIME_TO_UNIX"] 1 (some 1) ++
  named "TIMESTRTOTIME" ["TIME_STR_TO_TIME"] 1 (some 2) ++
  named "TIMESTRTODATE" ["TIME_STR_TO_DATE"] 1 (some 1) ++
  named "TIMESTRTOUNIX" ["TIME_STR_TO_UNIX"] 1 (some 1) ++
  named "DATESTRTODATE" ["DATE_STR_TO_DATE"] 1 (some 1) ++
  named "DATETODI" ["DATE_TO_DI"] 1 (some 1) ++ named "DITODATE" ["DI_TO_DATE"] 1 (some 1) ++
  named "TSORDSTODATE" ["TS_OR_DS_TO_DATE"] 1 (some 3) ++
  named "TSORDITODI" ["TS_OR_DI_TO_DI"] 1 (some 1) ++
  named "TSORDSTOTIME" ["TS_OR_DS_TO_TIME"] 1 (some 3) ++
  named "TSORDSTOTIMESTAMP" ["TS_OR_DS_TO_TIMESTAMP"] 1 (some 1) ++
  named "TSORDSTODATETIME" ["TS_OR_DS_TO_DATETIME"] 1 (some 1) ++
  named "UNIXSECONDS" ["UNIX_SECONDS"] 1 (some 1) ++
  named "UNIXMILLIS" ["UNIX_MILLIS"] 1 (some 1) ++
  named "UNIXMICROS" ["UNIX_MICROS"] 1 (some 1) ++ named "UNIXDATE" ["UNIX_DATE"] 1 (some 1) ++
  named "DATEFROMUNIXDATE" ["DATE_FROM_UNIX_DATE"] 1 (some 1) ++
  named "UTCDATE" ["UTC_DATE"] 0 (some 0) ++ named "UTCTIME" ["UTC_TIME"] 0 (some 1) ++
  named "UTCTIMESTAMP" ["UTC_TIMESTAMP"] 0 (some 1) ++
  named "YEAROFWEEK" ["YEAR_OF_WEEK", "YEAROFWEEK"] 1 (some 1) ++
  named "YEAROFWEEKISO" ["YEAR_OF_WEEK_ISO", "YEAROFWEEKISO"] 1 (some 1) ++
  named "TIMEFROMPARTS" ["TIME_FROM_PARTS", "TIMEFROMPARTS"] 3 (some 5) ++
  named "TIMESTAMPFROMPARTS" ["TIMESTAMP_FROM_PARTS", "TIMESTAMPFROMPARTS"] 6 (some 9)

/-- The known functions without a meaning of their own, by the names they are called by. -/
def table : List (String × Signature) := aggregateTable ++ scalarTable ++ timeTable

/-- The kinds of functions that combine rows. -/
def aggregates : List String := aggregateTable.map fun p => p.2.kind

end Signature

end SemanticLayer.Sql
