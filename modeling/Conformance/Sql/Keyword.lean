set_option autoImplicit false
set_option maxRecDepth 8000

/-!
# Keywords

The words that have a meaning of their own in SQL text.  A bare word spells a keyword in any case:
it is compared after every letter has been replaced by its capital.  The few letters outside ASCII
whose capitals are ASCII letters count as those.  Many keywords play no part in the grammar here;
they are told apart from other words, but not from each other.
-/

namespace Conformance.Sql

/-- The keywords of the grammar, spelled as they are written. -/
inductive Keyword where
  /-- Any keyword that plays no part in the grammar. -/
  | reserved
  | ABORT | ABSENT | ABSOLUTE | ACCESS | ACCOUNT | ACTION | ADD | AFTER | AGGREGATION | ALERT
  | ALGORITHM | ALL | ALTER | ALWAYS | ANALYZE | AND | ANTI | ANY | APPLICATION | APPLY
  | APPLYBUDGET | ARRAY | AS | ASC | ASENSITIVE | ASOF | ASSERT | AT | ATTACH | AUDIT
  | AUTHENTICATION | AUTHORIZATION | AUTO | AUTOEXTEND_SIZE | AUTOINCREMENT | AUTO_INCREMENT
  | AVG_ROW_LENGTH | AVRO | BACKWARD | BASE64 | BEFORE | BEGIN | BERNOULLI | BETWEEN | BIGDECIMAL
  | BIGINT | BIGNUMERIC | BINARY | BIND | BIT | BLOB | BLOCK | BOOL | BOOLEAN | BOTH | BROWSE
  | BUCKET | BY | BYTEA | BYTES | CACHE | CALL | CASCADE | CASE | CASES | CAST | CATCH | CEIL
  | CENTURY | CHAIN | CHANGE | CHAR | CHARACTER | CHARACTERISTICS | CHARACTERS | CHARSET | CHECK
  | CHECKSUM | CLEAR | CLOB | CLONE | CLOSE | CLUSTER | CLUSTERING | COLLATE | COLLATION
  | COLLECTION | COLUMN | COLUMNS | COMMENT | COMMIT | COMMITTED | COMPRESSION | COMPUTE
  | CONCURRENTLY | CONFLICT | CONNECT | CONNECTION | CONNECTOR | CONSTRAINT | CONVERT | COPY | COUNT
  | CREATE | CROSS | CURRENT | CURRENT_DATE | CURRENT_TIME | CURRENT_TIMESTAMP | CURSOR | CYCLE
  | DATA | DATABASE | DATABASES | DATE | DATE32 | DATETIME | DATETIME64 | DAY | DAYOFWEEK
  | DAYOFYEAR | DAYS | DCPROPERTIES | DEALLOCATE | DEC | DECADE | DECIMAL | DECLARE | DEFAULT
  | DEFERRABLE | DEFERRED | DEFINED | DEFINER | DELAY_KEY_WRITE | DELETE | DELIMITED | DELIMITER
  | DENY | DESC | DESCRIBE | DIRECTORY | DISABLE | DISCARD | DISTINCT | DISTRIBUTE | DIV | DO
  | DOMAIN | DOUBLE | DOW | DOY | DROP | DUPLICATE | ELEMENTS | ELSE | ELSEIF | EMPTY | ENABLE
  | ENCODING | ENCRYPTED | ENCRYPTION | END | ENDPOINT | ENFORCED | ENGINE | ENGINE_ATTRIBUTE | ENUM
  | ENUM16 | ENUM8 | EPOCH | ERROR | ESCAPE | ESCAPED | ESTIMATE | EVENT | EVOLVE | EXCEPT
  | EXCHANGE | EXCLUDE | EXCLUSIVE | EXEC | EXECUTE | EXECUTION | EXISTS | EXPLAIN | EXPLICIT
  | EXPORT | EXTENDED | EXTENSION | EXTERNAL | EXTRACT | FAIL | FAILOVER | FALSE | FETCH | FIELDS
  | FILTER | FIRST | FIXEDSTRING | FLOAT | FLOAT32 | FLOAT4 | FLOAT64 | FLOAT8 | FLOOR | FN
  | FOLLOWING | FOR | FORCE_NOT_NULL | FORCE_NULL | FORCE_QUOTE | FOREIGN | FORMAT | FORMATTED
  | FORWARD | FREEZE | FROM | FULFILLMENT | FULL | FUNCTION | FUNCTIONS | FUTURE | GENERATED
  | GLOBAL | GRANT | GRANTED | GRANTS | GRAPHVIZ | GROUP | GROUPING | GROUPS | HAVING | HEADER
  | HISTORY | HIVEVAR | HOLD | HOUR | HOURS | HUGEINT | IAM_ROLE | ICEBERG | IDENTITY | IF | IGNORE
  | ILIKE | IMMEDIATE | IMPORT | IMPORTED | IN | INCLUDE | INCLUDE_NULL_VALUES | INCREMENT | INDEX
  | INHERITS | INITIALLY | INNER | INOUT | INPLACE | INPUTFORMAT | INSENSITIVE | INSERT
  | INSERT_METHOD | INSTANT | INT | INT128 | INT16 | INT2 | INT256 | INT32 | INT4 | INT64 | INT8
  | INTEGER | INTEGRATION | INTERSECT | INTERVAL | INTO | INVOKER | IS | ISODOW | ISOLATION
  | ISOWEEK | ISOYEAR | ITEMS | JOIN | JSON | JSONB | JSONFILE | JSON_TABLE | JULIAN | KEY | KEYS
  | KEY_BLOCK_SIZE | KILL | LANGUAGE | LARGE | LAST | LATERAL | LEADING | LEFT | LEVEL | LIKE
  | LIMIT | LINES | LISTING | LOCAL | LOCALTIME | LOCALTIMESTAMP | LOCATION | LOCK | LOCKED | LOG
  | LONGBLOB | LONGTEXT | MANAGE | MANAGED | MANAGEDLOCATION | MAP | MASKING | MATCH | MATCHED
  | MATCH_CONDITION | MATCH_RECOGNIZE | MATERIALIZE | MATERIALIZED | MAX | MAXVALUE | MAX_ROWS
  | MEDIUMBLOB | MEDIUMINT | MEDIUMTEXT | MEMBER | MERGE | MESSAGE | METADATA | METRIC | MICROSECOND
  | MICROSECONDS | MILLENIUM | MILLENNIUM | MILLISECOND | MILLISECONDS | MINUS | MINUTE | MINUTES
  | MINVALUE | MIN_ROWS | MODIFY | MONITOR | MONTH | MONTHS | MSCK | NAME | NANOSECOND | NANOSECONDS
  | NATURAL | NESTED | NETWORK | NEXT | NFC | NFD | NFKC | NFKD | NO | NONE | NORMALIZED | NOSCAN
  | NOT | NOTHING | NOTNULL | NOWAIT | NULL | NULLS | NUMERIC | NVARCHAR | OBJECT | OCTETS | OF
  | OFFSET | ON | ONLY | OPEN | OPENJSON | OPERATE | OPERATOR | OPTIMIZATION | OPTION | OPTIONS | OR
  | ORC | ORDER | ORDINALITY | ORGANIZATION | OUT | OUTER | OUTPUT | OUTPUTFORMAT | OVER | OVERFLOW
  | OVERLAPS | OVERLAY | OVERRIDE | OVERWRITE | OWNED | OWNER | OWNERSHIP | PACKAGE | PACKAGES
  | PACK_KEYS | PARQUET | PARTITION | PARTITIONED | PASSING | PASSWORD | PATH | PERCENT | PERMISSIVE
  | PIVOT | PLACING | PLAN | PLANS | POLICY | POOL | POSITION | PRAGMA | PRECEDING | PRECISION
  | PREPARE | PRESERVE | PREWHERE | PRIMARY | PRINT | PRIOR | PRIVILEGES | PROCEDURE | PROGRAM
  | PROJECTION | PUBLIC | PURCHASE | PURGE | QUALIFY | QUARTER | QUERY | QUOTE | RAISE | RAISERROR
  | RANGE | RAW | RCFILE | READ | REAL | RECLUSTER | RECURSIVE | REFERENCES | REGCLASS | REGEXP
  | REINDEX | RELATIVE | RELEASE | RELEASES | RENAME | REPAIR | REPEATABLE | REPLACE | REPLICA
  | REPLICATE | REPLICATION | RESOLVE | RESOURCE | RESPECT | RESTRICT | RESTRICTIONS | RESTRICTIVE
  | RESUME | RETURN | RETURNING | REVOKE | RIGHT | RLIKE | ROLE | ROLLBACK | ROOT | ROW | ROWID
  | ROWS | ROW_FORMAT | RULE | SAFE_CAST | SAMPLE | SAVEPOINT | SCHEMA | SCHEMAS | SCROLL | SEARCH
  | SECOND | SECONDARY_ENGINE_ATTRIBUTE | SECONDS | SECRET | SECURE | SECURITY | SEED | SELECT
  | SEMI | SEQUENCE | SEQUENCEFILE | SEQUENCES | SERDE | SERDEPROPERTIES | SERIALIZABLE | SERVER
  | SERVICE | SESSION | SET | SETERROR | SETS | SETTINGS | SHARE | SHARED | SHARING | SHOW | SIGNED
  | SIMILAR | SKIP | SMALLINT | SNAPSHOT | SOME | SORT | SOURCE | SQL | SRID | STAGE | START
  | STARTS | STATISTICS | STATS_AUTO_RECALC | STATS_PERSISTENT | STATS_SAMPLE_PAGES | STATUS | STDIN
  | STDOUT | STORAGE | STORED | STRAIGHT_JOIN | STREAM | STRICT | STRING | STRUCT | SUBSTR
  | SUBSTRING | SUPPORT | SUSPEND | SWAP | SYSTEM | TABLE | TABLES | TABLESAMPLE | TABLESPACE | TAG
  | TARGET | TASK | TBLPROPERTIES | TEMP | TEMPORARY | TEMPTABLE | TERMINATED | TERSE | TEXT
  | TEXTFILE | THEN | TIES | TIME | TIMESTAMP | TIMESTAMPTZ | TIMESTAMP_NTZ | TIMETZ | TIMEZONE
  | TIMEZONE_ABBR | TIMEZONE_HOUR | TIMEZONE_MINUTE | TIMEZONE_REGION | TINYBLOB | TINYINT
  | TINYTEXT | TO | TOP | TRACE | TRADITIONAL | TRAILING | TRANSACTION | TRANSIENT | TRIGGER | TRIM
  | TRUE | TRUNCATE | TRY | TRY_CAST | TYPE | UBIGINT | UHUGEINT | UINT128 | UINT16 | UINT256
  | UINT32 | UINT64 | UINT8 | UNBOUNDED | UNCACHE | UNCOMMITTED | UNDEFINED | UNION | UNIQUE
  | UNKNOWN | UNLOAD | UNLOGGED | UNNEST | UNPIVOT | UNSIGNED | UPDATE | URL | USAGE | USE | USER
  | USING | USMALLINT | UTINYINT | UUID | VACUUM | VALID | VALIDATE | VALUE | VALUES | VARBINARY
  | VARBIT | VARCHAR | VARIABLES | VARYING | VERBOSE | VERSION | VERSIONS | VIEW | VIEWS | VIRTUAL
  | VOLUME | WAREHOUSE | WAREHOUSES | WEEK | WEEKS | WHEN | WHERE | WHILE | WINDOW | WITH | WITHIN
  | WITHOUT | WITHOUT_ARRAY_WRAPPER | WORK | WRAPPER | WRITE | XML | XMLNAMESPACES | XMLTABLE | XOR
  | YEAR | YEARS | ZONE
  deriving DecidableEq, Repr, Inhabited

namespace Keyword

/-- The spelling of each keyword of the grammar. -/
def spellings : List (String × Keyword) :=
  [("ABORT", .ABORT), ("ABSENT", .ABSENT), ("ABSOLUTE", .ABSOLUTE), ("ACCESS", .ACCESS),
   ("ACCOUNT", .ACCOUNT), ("ACTION", .ACTION), ("ADD", .ADD), ("AFTER", .AFTER),
   ("AGGREGATION", .AGGREGATION), ("ALERT", .ALERT), ("ALGORITHM", .ALGORITHM), ("ALL", .ALL),
   ("ALTER", .ALTER), ("ALWAYS", .ALWAYS), ("ANALYZE", .ANALYZE), ("AND", .AND), ("ANTI", .ANTI),
   ("ANY", .ANY), ("APPLICATION", .APPLICATION), ("APPLY", .APPLY), ("APPLYBUDGET", .APPLYBUDGET),
   ("ARRAY", .ARRAY), ("AS", .AS), ("ASC", .ASC), ("ASENSITIVE", .ASENSITIVE), ("ASOF", .ASOF),
   ("ASSERT", .ASSERT), ("AT", .AT), ("ATTACH", .ATTACH), ("AUDIT", .AUDIT),
   ("AUTHENTICATION", .AUTHENTICATION), ("AUTHORIZATION", .AUTHORIZATION), ("AUTO", .AUTO),
   ("AUTOEXTEND_SIZE", .AUTOEXTEND_SIZE), ("AUTOINCREMENT", .AUTOINCREMENT),
   ("AUTO_INCREMENT", .AUTO_INCREMENT), ("AVG_ROW_LENGTH", .AVG_ROW_LENGTH), ("AVRO", .AVRO),
   ("BACKWARD", .BACKWARD), ("BASE64", .BASE64), ("BEFORE", .BEFORE), ("BEGIN", .BEGIN),
   ("BERNOULLI", .BERNOULLI), ("BETWEEN", .BETWEEN), ("BIGDECIMAL", .BIGDECIMAL),
   ("BIGINT", .BIGINT), ("BIGNUMERIC", .BIGNUMERIC), ("BINARY", .BINARY), ("BIND", .BIND),
   ("BIT", .BIT), ("BLOB", .BLOB), ("BLOCK", .BLOCK), ("BOOL", .BOOL), ("BOOLEAN", .BOOLEAN),
   ("BOTH", .BOTH), ("BROWSE", .BROWSE), ("BUCKET", .BUCKET), ("BY", .BY), ("BYTEA", .BYTEA),
   ("BYTES", .BYTES), ("CACHE", .CACHE), ("CALL", .CALL), ("CASCADE", .CASCADE), ("CASE", .CASE),
   ("CASES", .CASES), ("CAST", .CAST), ("CATCH", .CATCH), ("CEIL", .CEIL), ("CENTURY", .CENTURY),
   ("CHAIN", .CHAIN), ("CHANGE", .CHANGE), ("CHAR", .CHAR), ("CHARACTER", .CHARACTER),
   ("CHARACTERISTICS", .CHARACTERISTICS), ("CHARACTERS", .CHARACTERS), ("CHARSET", .CHARSET),
   ("CHECK", .CHECK), ("CHECKSUM", .CHECKSUM), ("CLEAR", .CLEAR), ("CLOB", .CLOB),
   ("CLONE", .CLONE), ("CLOSE", .CLOSE), ("CLUSTER", .CLUSTER), ("CLUSTERING", .CLUSTERING),
   ("COLLATE", .COLLATE), ("COLLATION", .COLLATION), ("COLLECTION", .COLLECTION),
   ("COLUMN", .COLUMN), ("COLUMNS", .COLUMNS), ("COMMENT", .COMMENT), ("COMMIT", .COMMIT),
   ("COMMITTED", .COMMITTED), ("COMPRESSION", .COMPRESSION), ("COMPUTE", .COMPUTE),
   ("CONCURRENTLY", .CONCURRENTLY), ("CONFLICT", .CONFLICT), ("CONNECT", .CONNECT),
   ("CONNECTION", .CONNECTION), ("CONNECTOR", .CONNECTOR), ("CONSTRAINT", .CONSTRAINT),
   ("CONVERT", .CONVERT), ("COPY", .COPY), ("COUNT", .COUNT), ("CREATE", .CREATE),
   ("CROSS", .CROSS), ("CURRENT", .CURRENT), ("CURRENT_DATE", .CURRENT_DATE),
   ("CURRENT_TIME", .CURRENT_TIME), ("CURRENT_TIMESTAMP", .CURRENT_TIMESTAMP), ("CURSOR", .CURSOR),
   ("CYCLE", .CYCLE), ("DATA", .DATA), ("DATABASE", .DATABASE), ("DATABASES", .DATABASES),
   ("DATE", .DATE), ("DATE32", .DATE32), ("DATETIME", .DATETIME), ("DATETIME64", .DATETIME64),
   ("DAY", .DAY), ("DAYOFWEEK", .DAYOFWEEK), ("DAYOFYEAR", .DAYOFYEAR), ("DAYS", .DAYS),
   ("DCPROPERTIES", .DCPROPERTIES), ("DEALLOCATE", .DEALLOCATE), ("DEC", .DEC), ("DECADE", .DECADE),
   ("DECIMAL", .DECIMAL), ("DECLARE", .DECLARE), ("DEFAULT", .DEFAULT), ("DEFERRABLE", .DEFERRABLE),
   ("DEFERRED", .DEFERRED), ("DEFINED", .DEFINED), ("DEFINER", .DEFINER),
   ("DELAY_KEY_WRITE", .DELAY_KEY_WRITE), ("DELETE", .DELETE), ("DELIMITED", .DELIMITED),
   ("DELIMITER", .DELIMITER), ("DENY", .DENY), ("DESC", .DESC), ("DESCRIBE", .DESCRIBE),
   ("DIRECTORY", .DIRECTORY), ("DISABLE", .DISABLE), ("DISCARD", .DISCARD), ("DISTINCT", .DISTINCT),
   ("DISTRIBUTE", .DISTRIBUTE), ("DIV", .DIV), ("DO", .DO), ("DOMAIN", .DOMAIN),
   ("DOUBLE", .DOUBLE), ("DOW", .DOW), ("DOY", .DOY), ("DROP", .DROP), ("DUPLICATE", .DUPLICATE),
   ("ELEMENTS", .ELEMENTS), ("ELSE", .ELSE), ("ELSEIF", .ELSEIF), ("EMPTY", .EMPTY),
   ("ENABLE", .ENABLE), ("ENCODING", .ENCODING), ("ENCRYPTED", .ENCRYPTED),
   ("ENCRYPTION", .ENCRYPTION), ("END", .END), ("ENDPOINT", .ENDPOINT), ("ENFORCED", .ENFORCED),
   ("ENGINE", .ENGINE), ("ENGINE_ATTRIBUTE", .ENGINE_ATTRIBUTE), ("ENUM", .ENUM),
   ("ENUM16", .ENUM16), ("ENUM8", .ENUM8), ("EPOCH", .EPOCH), ("ERROR", .ERROR),
   ("ESCAPE", .ESCAPE), ("ESCAPED", .ESCAPED), ("ESTIMATE", .ESTIMATE), ("EVENT", .EVENT),
   ("EVOLVE", .EVOLVE), ("EXCEPT", .EXCEPT), ("EXCHANGE", .EXCHANGE), ("EXCLUDE", .EXCLUDE),
   ("EXCLUSIVE", .EXCLUSIVE), ("EXEC", .EXEC), ("EXECUTE", .EXECUTE), ("EXECUTION", .EXECUTION),
   ("EXISTS", .EXISTS), ("EXPLAIN", .EXPLAIN), ("EXPLICIT", .EXPLICIT), ("EXPORT", .EXPORT),
   ("EXTENDED", .EXTENDED), ("EXTENSION", .EXTENSION), ("EXTERNAL", .EXTERNAL),
   ("EXTRACT", .EXTRACT), ("FAIL", .FAIL), ("FAILOVER", .FAILOVER), ("FALSE", .FALSE),
   ("FETCH", .FETCH), ("FIELDS", .FIELDS), ("FILTER", .FILTER), ("FIRST", .FIRST),
   ("FIXEDSTRING", .FIXEDSTRING), ("FLOAT", .FLOAT), ("FLOAT32", .FLOAT32), ("FLOAT4", .FLOAT4),
   ("FLOAT64", .FLOAT64), ("FLOAT8", .FLOAT8), ("FLOOR", .FLOOR), ("FN", .FN),
   ("FOLLOWING", .FOLLOWING), ("FOR", .FOR), ("FORCE_NOT_NULL", .FORCE_NOT_NULL),
   ("FORCE_NULL", .FORCE_NULL), ("FORCE_QUOTE", .FORCE_QUOTE), ("FOREIGN", .FOREIGN),
   ("FORMAT", .FORMAT), ("FORMATTED", .FORMATTED), ("FORWARD", .FORWARD), ("FREEZE", .FREEZE),
   ("FROM", .FROM), ("FULFILLMENT", .FULFILLMENT), ("FULL", .FULL), ("FUNCTION", .FUNCTION),
   ("FUNCTIONS", .FUNCTIONS), ("FUTURE", .FUTURE), ("GENERATED", .GENERATED), ("GLOBAL", .GLOBAL),
   ("GRANT", .GRANT), ("GRANTED", .GRANTED), ("GRANTS", .GRANTS), ("GRAPHVIZ", .GRAPHVIZ),
   ("GROUP", .GROUP), ("GROUPING", .GROUPING), ("GROUPS", .GROUPS), ("HAVING", .HAVING),
   ("HEADER", .HEADER), ("HISTORY", .HISTORY), ("HIVEVAR", .HIVEVAR), ("HOLD", .HOLD),
   ("HOUR", .HOUR), ("HOURS", .HOURS), ("HUGEINT", .HUGEINT), ("IAM_ROLE", .IAM_ROLE),
   ("ICEBERG", .ICEBERG), ("IDENTITY", .IDENTITY), ("IF", .IF), ("IGNORE", .IGNORE),
   ("ILIKE", .ILIKE), ("IMMEDIATE", .IMMEDIATE), ("IMPORT", .IMPORT), ("IMPORTED", .IMPORTED),
   ("IN", .IN), ("INCLUDE", .INCLUDE), ("INCLUDE_NULL_VALUES", .INCLUDE_NULL_VALUES),
   ("INCREMENT", .INCREMENT), ("INDEX", .INDEX), ("INHERITS", .INHERITS), ("INITIALLY", .INITIALLY),
   ("INNER", .INNER), ("INOUT", .INOUT), ("INPLACE", .INPLACE), ("INPUTFORMAT", .INPUTFORMAT),
   ("INSENSITIVE", .INSENSITIVE), ("INSERT", .INSERT), ("INSERT_METHOD", .INSERT_METHOD),
   ("INSTANT", .INSTANT), ("INT", .INT), ("INT128", .INT128), ("INT16", .INT16), ("INT2", .INT2),
   ("INT256", .INT256), ("INT32", .INT32), ("INT4", .INT4), ("INT64", .INT64), ("INT8", .INT8),
   ("INTEGER", .INTEGER), ("INTEGRATION", .INTEGRATION), ("INTERSECT", .INTERSECT),
   ("INTERVAL", .INTERVAL), ("INTO", .INTO), ("INVOKER", .INVOKER), ("IS", .IS),
   ("ISODOW", .ISODOW), ("ISOLATION", .ISOLATION), ("ISOWEEK", .ISOWEEK), ("ISOYEAR", .ISOYEAR),
   ("ITEMS", .ITEMS), ("JOIN", .JOIN), ("JSON", .JSON), ("JSONB", .JSONB), ("JSONFILE", .JSONFILE),
   ("JSON_TABLE", .JSON_TABLE), ("JULIAN", .JULIAN), ("KEY", .KEY), ("KEYS", .KEYS),
   ("KEY_BLOCK_SIZE", .KEY_BLOCK_SIZE), ("KILL", .KILL), ("LANGUAGE", .LANGUAGE), ("LARGE", .LARGE),
   ("LAST", .LAST), ("LATERAL", .LATERAL), ("LEADING", .LEADING), ("LEFT", .LEFT),
   ("LEVEL", .LEVEL), ("LIKE", .LIKE), ("LIMIT", .LIMIT), ("LINES", .LINES), ("LISTING", .LISTING),
   ("LOCAL", .LOCAL), ("LOCALTIME", .LOCALTIME), ("LOCALTIMESTAMP", .LOCALTIMESTAMP),
   ("LOCATION", .LOCATION), ("LOCK", .LOCK), ("LOCKED", .LOCKED), ("LOG", .LOG),
   ("LONGBLOB", .LONGBLOB), ("LONGTEXT", .LONGTEXT), ("MANAGE", .MANAGE), ("MANAGED", .MANAGED),
   ("MANAGEDLOCATION", .MANAGEDLOCATION), ("MAP", .MAP), ("MASKING", .MASKING), ("MATCH", .MATCH),
   ("MATCHED", .MATCHED), ("MATCH_CONDITION", .MATCH_CONDITION),
   ("MATCH_RECOGNIZE", .MATCH_RECOGNIZE), ("MATERIALIZE", .MATERIALIZE),
   ("MATERIALIZED", .MATERIALIZED), ("MAX", .MAX), ("MAXVALUE", .MAXVALUE), ("MAX_ROWS", .MAX_ROWS),
   ("MEDIUMBLOB", .MEDIUMBLOB), ("MEDIUMINT", .MEDIUMINT), ("MEDIUMTEXT", .MEDIUMTEXT),
   ("MEMBER", .MEMBER), ("MERGE", .MERGE), ("MESSAGE", .MESSAGE), ("METADATA", .METADATA),
   ("METRIC", .METRIC), ("MICROSECOND", .MICROSECOND), ("MICROSECONDS", .MICROSECONDS),
   ("MILLENIUM", .MILLENIUM), ("MILLENNIUM", .MILLENNIUM), ("MILLISECOND", .MILLISECOND),
   ("MILLISECONDS", .MILLISECONDS), ("MINUS", .MINUS), ("MINUTE", .MINUTE), ("MINUTES", .MINUTES),
   ("MINVALUE", .MINVALUE), ("MIN_ROWS", .MIN_ROWS), ("MODIFY", .MODIFY), ("MONITOR", .MONITOR),
   ("MONTH", .MONTH), ("MONTHS", .MONTHS), ("MSCK", .MSCK), ("NAME", .NAME),
   ("NANOSECOND", .NANOSECOND), ("NANOSECONDS", .NANOSECONDS), ("NATURAL", .NATURAL),
   ("NESTED", .NESTED), ("NETWORK", .NETWORK), ("NEXT", .NEXT), ("NFC", .NFC), ("NFD", .NFD),
   ("NFKC", .NFKC), ("NFKD", .NFKD), ("NO", .NO), ("NONE", .NONE), ("NORMALIZED", .NORMALIZED),
   ("NOSCAN", .NOSCAN), ("NOT", .NOT), ("NOTHING", .NOTHING), ("NOTNULL", .NOTNULL),
   ("NOWAIT", .NOWAIT), ("NULL", .NULL), ("NULLS", .NULLS), ("NUMERIC", .NUMERIC),
   ("NVARCHAR", .NVARCHAR), ("OBJECT", .OBJECT), ("OCTETS", .OCTETS), ("OF", .OF),
   ("OFFSET", .OFFSET), ("ON", .ON), ("ONLY", .ONLY), ("OPEN", .OPEN), ("OPENJSON", .OPENJSON),
   ("OPERATE", .OPERATE), ("OPERATOR", .OPERATOR), ("OPTIMIZATION", .OPTIMIZATION),
   ("OPTION", .OPTION), ("OPTIONS", .OPTIONS), ("OR", .OR), ("ORC", .ORC), ("ORDER", .ORDER),
   ("ORDINALITY", .ORDINALITY), ("ORGANIZATION", .ORGANIZATION), ("OUT", .OUT), ("OUTER", .OUTER),
   ("OUTPUT", .OUTPUT), ("OUTPUTFORMAT", .OUTPUTFORMAT), ("OVER", .OVER), ("OVERFLOW", .OVERFLOW),
   ("OVERLAPS", .OVERLAPS), ("OVERLAY", .OVERLAY), ("OVERRIDE", .OVERRIDE),
   ("OVERWRITE", .OVERWRITE), ("OWNED", .OWNED), ("OWNER", .OWNER), ("OWNERSHIP", .OWNERSHIP),
   ("PACKAGE", .PACKAGE), ("PACKAGES", .PACKAGES), ("PACK_KEYS", .PACK_KEYS), ("PARQUET", .PARQUET),
   ("PARTITION", .PARTITION), ("PARTITIONED", .PARTITIONED), ("PASSING", .PASSING),
   ("PASSWORD", .PASSWORD), ("PATH", .PATH), ("PERCENT", .PERCENT), ("PERMISSIVE", .PERMISSIVE),
   ("PIVOT", .PIVOT), ("PLACING", .PLACING), ("PLAN", .PLAN), ("PLANS", .PLANS),
   ("POLICY", .POLICY), ("POOL", .POOL), ("POSITION", .POSITION), ("PRAGMA", .PRAGMA),
   ("PRECEDING", .PRECEDING), ("PRECISION", .PRECISION), ("PREPARE", .PREPARE),
   ("PRESERVE", .PRESERVE), ("PREWHERE", .PREWHERE), ("PRIMARY", .PRIMARY), ("PRINT", .PRINT),
   ("PRIOR", .PRIOR), ("PRIVILEGES", .PRIVILEGES), ("PROCEDURE", .PROCEDURE), ("PROGRAM", .PROGRAM),
   ("PROJECTION", .PROJECTION), ("PUBLIC", .PUBLIC), ("PURCHASE", .PURCHASE), ("PURGE", .PURGE),
   ("QUALIFY", .QUALIFY), ("QUARTER", .QUARTER), ("QUERY", .QUERY), ("QUOTE", .QUOTE),
   ("RAISE", .RAISE), ("RAISERROR", .RAISERROR), ("RANGE", .RANGE), ("RAW", .RAW),
   ("RCFILE", .RCFILE), ("READ", .READ), ("REAL", .REAL), ("RECLUSTER", .RECLUSTER),
   ("RECURSIVE", .RECURSIVE), ("REFERENCES", .REFERENCES), ("REGCLASS", .REGCLASS),
   ("REGEXP", .REGEXP), ("REINDEX", .REINDEX), ("RELATIVE", .RELATIVE), ("RELEASE", .RELEASE),
   ("RELEASES", .RELEASES), ("RENAME", .RENAME), ("REPAIR", .REPAIR), ("REPEATABLE", .REPEATABLE),
   ("REPLACE", .REPLACE), ("REPLICA", .REPLICA), ("REPLICATE", .REPLICATE),
   ("REPLICATION", .REPLICATION), ("RESOLVE", .RESOLVE), ("RESOURCE", .RESOURCE),
   ("RESPECT", .RESPECT), ("RESTRICT", .RESTRICT), ("RESTRICTIONS", .RESTRICTIONS),
   ("RESTRICTIVE", .RESTRICTIVE), ("RESUME", .RESUME), ("RETURN", .RETURN),
   ("RETURNING", .RETURNING), ("REVOKE", .REVOKE), ("RIGHT", .RIGHT), ("RLIKE", .RLIKE),
   ("ROLE", .ROLE), ("ROLLBACK", .ROLLBACK), ("ROOT", .ROOT), ("ROW", .ROW), ("ROWID", .ROWID),
   ("ROWS", .ROWS), ("ROW_FORMAT", .ROW_FORMAT), ("RULE", .RULE), ("SAFE_CAST", .SAFE_CAST),
   ("SAMPLE", .SAMPLE), ("SAVEPOINT", .SAVEPOINT), ("SCHEMA", .SCHEMA), ("SCHEMAS", .SCHEMAS),
   ("SCROLL", .SCROLL), ("SEARCH", .SEARCH), ("SECOND", .SECOND),
   ("SECONDARY_ENGINE_ATTRIBUTE", .SECONDARY_ENGINE_ATTRIBUTE), ("SECONDS", .SECONDS),
   ("SECRET", .SECRET), ("SECURE", .SECURE), ("SECURITY", .SECURITY), ("SEED", .SEED),
   ("SELECT", .SELECT), ("SEMI", .SEMI), ("SEQUENCE", .SEQUENCE), ("SEQUENCEFILE", .SEQUENCEFILE),
   ("SEQUENCES", .SEQUENCES), ("SERDE", .SERDE), ("SERDEPROPERTIES", .SERDEPROPERTIES),
   ("SERIALIZABLE", .SERIALIZABLE), ("SERVER", .SERVER), ("SERVICE", .SERVICE),
   ("SESSION", .SESSION), ("SET", .SET), ("SETERROR", .SETERROR), ("SETS", .SETS),
   ("SETTINGS", .SETTINGS), ("SHARE", .SHARE), ("SHARED", .SHARED), ("SHARING", .SHARING),
   ("SHOW", .SHOW), ("SIGNED", .SIGNED), ("SIMILAR", .SIMILAR), ("SKIP", .SKIP),
   ("SMALLINT", .SMALLINT), ("SNAPSHOT", .SNAPSHOT), ("SOME", .SOME), ("SORT", .SORT),
   ("SOURCE", .SOURCE), ("SQL", .SQL), ("SRID", .SRID), ("STAGE", .STAGE), ("START", .START),
   ("STARTS", .STARTS), ("STATISTICS", .STATISTICS), ("STATS_AUTO_RECALC", .STATS_AUTO_RECALC),
   ("STATS_PERSISTENT", .STATS_PERSISTENT), ("STATS_SAMPLE_PAGES", .STATS_SAMPLE_PAGES),
   ("STATUS", .STATUS), ("STDIN", .STDIN), ("STDOUT", .STDOUT), ("STORAGE", .STORAGE),
   ("STORED", .STORED), ("STRAIGHT_JOIN", .STRAIGHT_JOIN), ("STREAM", .STREAM), ("STRICT", .STRICT),
   ("STRING", .STRING), ("STRUCT", .STRUCT), ("SUBSTR", .SUBSTR), ("SUBSTRING", .SUBSTRING),
   ("SUPPORT", .SUPPORT), ("SUSPEND", .SUSPEND), ("SWAP", .SWAP), ("SYSTEM", .SYSTEM),
   ("TABLE", .TABLE), ("TABLES", .TABLES), ("TABLESAMPLE", .TABLESAMPLE),
   ("TABLESPACE", .TABLESPACE), ("TAG", .TAG), ("TARGET", .TARGET), ("TASK", .TASK),
   ("TBLPROPERTIES", .TBLPROPERTIES), ("TEMP", .TEMP), ("TEMPORARY", .TEMPORARY),
   ("TEMPTABLE", .TEMPTABLE), ("TERMINATED", .TERMINATED), ("TERSE", .TERSE), ("TEXT", .TEXT),
   ("TEXTFILE", .TEXTFILE), ("THEN", .THEN), ("TIES", .TIES), ("TIME", .TIME),
   ("TIMESTAMP", .TIMESTAMP), ("TIMESTAMPTZ", .TIMESTAMPTZ), ("TIMESTAMP_NTZ", .TIMESTAMP_NTZ),
   ("TIMETZ", .TIMETZ), ("TIMEZONE", .TIMEZONE), ("TIMEZONE_ABBR", .TIMEZONE_ABBR),
   ("TIMEZONE_HOUR", .TIMEZONE_HOUR), ("TIMEZONE_MINUTE", .TIMEZONE_MINUTE),
   ("TIMEZONE_REGION", .TIMEZONE_REGION), ("TINYBLOB", .TINYBLOB), ("TINYINT", .TINYINT),
   ("TINYTEXT", .TINYTEXT), ("TO", .TO), ("TOP", .TOP), ("TRACE", .TRACE),
   ("TRADITIONAL", .TRADITIONAL), ("TRAILING", .TRAILING), ("TRANSACTION", .TRANSACTION),
   ("TRANSIENT", .TRANSIENT), ("TRIGGER", .TRIGGER), ("TRIM", .TRIM), ("TRUE", .TRUE),
   ("TRUNCATE", .TRUNCATE), ("TRY", .TRY), ("TRY_CAST", .TRY_CAST), ("TYPE", .TYPE),
   ("UBIGINT", .UBIGINT), ("UHUGEINT", .UHUGEINT), ("UINT128", .UINT128), ("UINT16", .UINT16),
   ("UINT256", .UINT256), ("UINT32", .UINT32), ("UINT64", .UINT64), ("UINT8", .UINT8),
   ("UNBOUNDED", .UNBOUNDED), ("UNCACHE", .UNCACHE), ("UNCOMMITTED", .UNCOMMITTED),
   ("UNDEFINED", .UNDEFINED), ("UNION", .UNION), ("UNIQUE", .UNIQUE), ("UNKNOWN", .UNKNOWN),
   ("UNLOAD", .UNLOAD), ("UNLOGGED", .UNLOGGED), ("UNNEST", .UNNEST), ("UNPIVOT", .UNPIVOT),
   ("UNSIGNED", .UNSIGNED), ("UPDATE", .UPDATE), ("URL", .URL), ("USAGE", .USAGE), ("USE", .USE),
   ("USER", .USER), ("USING", .USING), ("USMALLINT", .USMALLINT), ("UTINYINT", .UTINYINT),
   ("UUID", .UUID), ("VACUUM", .VACUUM), ("VALID", .VALID), ("VALIDATE", .VALIDATE),
   ("VALUE", .VALUE), ("VALUES", .VALUES), ("VARBINARY", .VARBINARY), ("VARBIT", .VARBIT),
   ("VARCHAR", .VARCHAR), ("VARIABLES", .VARIABLES), ("VARYING", .VARYING), ("VERBOSE", .VERBOSE),
   ("VERSION", .VERSION), ("VERSIONS", .VERSIONS), ("VIEW", .VIEW), ("VIEWS", .VIEWS),
   ("VIRTUAL", .VIRTUAL), ("VOLUME", .VOLUME), ("WAREHOUSE", .WAREHOUSE),
   ("WAREHOUSES", .WAREHOUSES), ("WEEK", .WEEK), ("WEEKS", .WEEKS), ("WHEN", .WHEN),
   ("WHERE", .WHERE), ("WHILE", .WHILE), ("WINDOW", .WINDOW), ("WITH", .WITH), ("WITHIN", .WITHIN),
   ("WITHOUT", .WITHOUT), ("WITHOUT_ARRAY_WRAPPER", .WITHOUT_ARRAY_WRAPPER), ("WORK", .WORK),
   ("WRAPPER", .WRAPPER), ("WRITE", .WRITE), ("XML", .XML), ("XMLNAMESPACES", .XMLNAMESPACES),
   ("XMLTABLE", .XMLTABLE), ("XOR", .XOR), ("YEAR", .YEAR), ("YEARS", .YEARS), ("ZONE", .ZONE)]

/-- The keywords that play no part in the grammar. -/
def reservedWords : List String :=
  ["ABS", "ACCEPTANYDATE", "ACCEPTINVCHARS", "ADDQUOTES", "ADMIN", "AGAINST", "AGGREGATE", "ALIAS",
   "ALLOCATE", "ALLOWOVERWRITE", "ARCHIVE", "ARE", "ARRAY_MAX_CARDINALITY", "ASYMMETRIC", "ATOMIC",
   "AUTHORIZATIONS", "AVG", "BASE_LOCATION", "BEGIN_FRAME", "BEGIN_PARTITION", "BINDING",
   "BLANKSASNULL", "BLOOM", "BLOOMFILTER", "BOOST", "BOX", "BRIN", "BTREE", "BUCKETS", "BYPASSRLS",
   "BZIP2", "CALLED", "CARDINALITY", "CASCADED", "CATALOG", "CATALOG_SYNC", "CATEGORY", "CEILING",
   "CHANGES", "CHANGE_TRACKING", "CHANNEL", "CHARACTER_LENGTH", "CHAR_LENGTH", "CIRCLE",
   "CLEANPATH", "CLUSTERED", "COALESCE", "COLLECT", "COLUMNSTORE", "COMPATIBLE", "COMPUPDATE",
   "CONDITION", "CONNECT_BY_ROOT", "CONTACT", "CONTAINS", "CONTINUE", "COPY_OPTIONS", "CORR",
   "CORRESPONDING", "COVAR_POP", "COVAR_SAMP", "CREATEDB", "CREATEROLE", "CREDENTIALS", "CSV",
   "CUBE", "CUME_DIST", "CURRENT_CATALOG", "CURRENT_DEFAULT_TRANSFORM_GROUP", "CURRENT_PATH",
   "CURRENT_ROLE", "CURRENT_ROW", "CURRENT_SCHEMA", "CURRENT_TRANSFORM_GROUP_FOR_TYPE",
   "CURRENT_USER", "DATA_RETENTION_TIME_IN_DAYS", "DATEFORMAT", "DEDUPLICATE", "DEFAULTS",
   "DEFAULT_DDL_COLLATION", "DEFINE", "DELAYED", "DELEGATED", "DELTA", "DENSE_RANK", "DEREF",
   "DETACH", "DETAIL", "DETERMINISTIC", "DIMENSIONS", "DISCONNECT", "DISTINCTROW", "DOWNSTREAM",
   "DRY", "DUO", "DYNAMIC", "EACH", "ELEMENT", "EMPTYASNULL", "ENABLE_SCHEMA_EVOLUTION",
   "END_FRAME", "END_PARTITION", "ENROLL", "EPHEMERAL", "EQUALS", "EVEN", "EVERY", "EXCEPTION",
   "EXP", "EXPANSION", "EXTEND", "EXTERNAL_VOLUME", "FACTS", "FILE", "FILES", "FILE_FORMAT", "FILL",
   "FINAL", "FIRST_VALUE", "FIXEDWIDTH", "FLATTEN", "FLUSH", "FORCE", "FRAME_ROW", "FREE", "FSCK",
   "FULLTEXT", "FUSION", "GB", "GENERAL", "GENERATE", "GEOGRAPHY", "GET", "GIN", "GIST", "GZIP",
   "HASH", "HEAP", "HIGH_PRIORITY", "HOSTS", "ID", "IDENTITY_INSERT", "IGNOREHEADER", "IMMUTABLE",
   "INDICATOR", "INHERIT", "INPATH", "INPUT", "INSTALL", "INSTEAD", "INTERPOLATE", "INTERSECTION",
   "IO", "JAR", "LAG", "LAMBDA", "LAST_VALUE", "LEAD", "LIKE_REGEX", "LINE", "LIST", "LISTEN", "LN",
   "LOAD", "LOGIN", "LOGS", "LOWCARDINALITY", "LOWER", "LOW_PRIORITY", "LS", "LSEG", "MACRO",
   "MATCHES", "MAXFILESIZE", "MAX_DATA_EXTENSION_TIME_IN_DAYS", "MB", "MEASURES", "METHOD", "MIN",
   "MOD", "MODE", "MODIFIES", "MODULE", "MULTISET", "MUTATION", "NAMES", "NATIONAL", "NCHAR",
   "NCLOB", "NEW", "NOBYPASSRLS", "NOCREATEDB", "NOCREATEROLE", "NOINHERIT", "NOLOGIN", "NOORDER",
   "NOREPLICATION", "NORMALIZE", "NOSUPERUSER", "NOTIFY", "NO_WRITE_TO_BINLOG", "NTH_VALUE",
   "NTILE", "NULLABLE", "NULLIF", "OCCURRENCES_REGEX", "OCTET_LENGTH", "OFF", "OFFLINE", "OFFSETS",
   "OLD", "OMIT", "ONE", "ONLINE", "OPTIMIZE", "OPTIMIZER_COSTS", "OTHER", "PARALLEL", "PARAMETER",
   "PARSER", "PARTIAL", "PARTITIONS", "PAST", "PATTERN", "PER", "PERCENTILE_CONT",
   "PERCENTILE_DISC", "PERCENT_RANK", "PERIOD", "PERSISTENT", "POINT", "POLYGON", "PORTION",
   "POSITION_REGEX", "POWER", "PRECEDES", "PRESET", "PROFILE", "QUERIES", "RANK", "READS",
   "READ_ONLY", "REF", "REFERENCING", "REFRESH_MODE", "REGION", "REGR_AVGX", "REGR_AVGY",
   "REGR_COUNT", "REGR_INTERCEPT", "REGR_R2", "REGR_SLOPE", "REGR_SXX", "REGR_SXY", "REGR_SYY",
   "RELAY", "REMOTE", "REMOVE", "REMOVEQUOTES", "REORG", "REPLACE_INVALID_CHARACTERS", "RESET",
   "RESTART", "RESTRICTED", "RESULT", "RESULTSET", "RETAIN", "RETURNS", "RM", "ROLES", "ROLLUP",
   "ROWGROUPSIZE", "ROW_NUMBER", "RUN", "SAFE", "SCOPE", "SECONDARY", "SEMANTIC_VIEW", "SENSITIVE",
   "SEPARATOR", "SESSION_USER", "SIMPLE", "SLOW", "SORTED", "SPATIAL", "SPECIFIC", "SPECIFICTYPE",
   "SPGIST", "SQLEXCEPTION", "SQLSTATE", "SQLWARNING", "SQRT", "STABLE", "STATEMENT", "STATIC",
   "STATUPDATE", "STDDEV_POP", "STDDEV_SAMP", "STEP", "STORAGE_INTEGRATION",
   "STORAGE_SERIALIZATION_POLICY", "SUBMULTISET", "SUBSTRING_REGEX", "SUCCEEDS", "SUM", "SUPER",
   "SUPERUSER", "SYMMETRIC", "SYNC", "SYNONYM", "SYSTEM_TIME", "SYSTEM_USER", "TARGET_LAG",
   "TIMEFORMAT", "TOTALS", "TRANSLATE", "TRANSLATE_REGEX", "TREAT", "TRIM_ARRAY", "TRUNCATECOLUMNS",
   "TRY_CONVERT", "TSQUERY", "TSVECTOR", "TUPLE", "UESCAPE", "UNFREEZE", "UNLISTEN", "UNLOCK",
   "UNMATCHED", "UNSAFE", "UNSET", "UNTIL", "UPPER", "USER_RESOURCES", "VALIDATION_MODE",
   "VALUE_OF", "VARIABLE", "VAR_POP", "VAR_SAMP", "VERSIONING", "VOLATILE", "WHENEVER",
   "WIDTH_BUCKET", "WORKLOAD_IDENTITY", "ZORDER", "ZSTD"]

/-- The ASCII capitals of a letter. -/
def capitals (c : Char) : List Char :=
  match c.toNat with
  | 0xDF => ['S', 'S']
  | 0x131 => ['I']
  | 0x17F => ['S']
  | 0xFB00 => ['F', 'F']
  | 0xFB01 => ['F', 'I']
  | 0xFB02 => ['F', 'L']
  | 0xFB03 => ['F', 'F', 'I']
  | 0xFB04 => ['F', 'F', 'L']
  | 0xFB05 => ['S', 'T']
  | 0xFB06 => ['S', 'T']
  | _ => [c.toUpper]

/-- A word in capitals. -/
def capitalized (word : List Char) : String := String.ofList (word.flatMap capitals)

/-- The keyword that a word spells. -/
def ofWord? (word : List Char) : Option Keyword :=
  let spelling := capitalized word
  match spellings.find? fun entry => entry.1 == spelling with
  | some entry => some entry.2
  | none => if reservedWords.contains spelling then some .reserved else none

end Keyword

end Conformance.Sql
