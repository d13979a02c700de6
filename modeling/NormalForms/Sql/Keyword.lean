import NormalForms.Text.Search

/-!
# Keywords

An unquoted word is a keyword by its capitals. `ofText` writes a word in
capitals as far as they are ASCII letters, which a few letters beyond ASCII
have too. Some keywords are reserved: they are no alias where a query goes on,
or no column where an expression of their own is meant. `byLetter` lists the
words that are keywords anywhere.
-/

namespace NormalForms.Sql.Keyword

/-- The letters beyond ASCII that have ASCII capitals. -/
def foreignCapitals : List (Char × List Char) := [
  ('ı', ['I']), ('ſ', ['S']), ('ß', ['S', 'S']), ('ﬀ', ['F', 'F']), ('ﬁ', ['F', 'I']),
  ('ﬂ', ['F', 'L']), ('ﬃ', ['F', 'F', 'I']), ('ﬄ', ['F', 'F', 'L']), ('ﬅ', ['S', 'T']),
  ('ﬆ', ['S', 'T'])]

def capitals (c : Char) : List Char := (foreignCapitals.lookup c).getD [c.toUpper]

def ofText (s : String) : String := String.ofList (s.toList.flatMap capitals)

/-! ## Reserved words -/

/-- The words that are no name of a column in a query. A list that may end in a
comma ends before them. -/
def endOfItem : List String := [
  "WITH", "EXPLAIN", "ANALYZE", "SELECT", "WHERE", "GROUP", "SORT", "HAVING", "ORDER", "TOP",
  "LATERAL", "VIEW", "LIMIT", "OFFSET", "FETCH", "UNION", "EXCEPT", "EXCLUDE", "INTERSECT",
  "MINUS", "CLUSTER", "DISTRIBUTE", "RETURNING", "FROM", "INTO", "END"]

def endOfTable : List String := [
  "WITH", "EXPLAIN", "ANALYZE", "SELECT", "WHERE", "GROUP", "SORT", "HAVING", "WINDOW", "ORDER",
  "PIVOT", "UNPIVOT", "TOP", "LATERAL", "VIEW", "LIMIT", "OFFSET", "FETCH", "UNION", "EXCEPT",
  "INTERSECT", "MINUS", "ON", "JOIN", "INNER", "CROSS", "FULL", "LEFT", "RIGHT", "NATURAL",
  "USING", "CLUSTER", "DISTRIBUTE", "GLOBAL", "ANTI", "SEMI", "RETURNING", "ASOF",
  "MATCH_CONDITION", "OUTER", "SET", "QUALIFY", "END", "FOR", "PARTITION", "PREWHERE", "SETTINGS",
  "FORMAT", "START", "CONNECT", "MATCH_RECOGNIZE", "SAMPLE", "TABLESAMPLE", "FROM", "OPEN"]

/-- The words that start an expression of their own or none at all. -/
def startOfForm : List String := ["EXISTS", "INTERVAL", "STRUCT", "TRIM"]

/-! ## All keywords -/

/-- The keywords by their first letter, each without it. -/
def byLetter : List (Char × List String) := [
  ('A', ["BORT", "BS", "BSENT", "BSOLUTE", "CCEPTANYDATE", "CCEPTINVCHARS", "CCESS", "CCOUNT",
    "CTION", "DD", "DDQUOTES", "DMIN", "FTER", "GAINST", "GGREGATE", "GGREGATION", "LERT",
    "LGORITHM", "LIAS", "LL", "LLOCATE", "LLOWOVERWRITE", "LTER", "LWAYS", "NALYZE", "ND", "NTI",
    "NY", "PPLICATION", "PPLY", "PPLYBUDGET", "RCHIVE", "RE", "RRAY", "RRAY_MAX_CARDINALITY",
    "S", "SC", "SENSITIVE", "SOF", "SSERT", "SYMMETRIC", "T", "TOMIC", "TTACH", "UDIT",
    "UTHENTICATION", "UTHORIZATION", "UTO", "UTOEXTEND_SIZE", "UTOINCREMENT", "UTO_INCREMENT",
    "VG", "VG_ROW_LENGTH", "VRO"]),
  ('B', ["ACKWARD", "ASE64", "ASE_LOCATION", "EFORE", "EGIN", "EGIN_FRAME", "EGIN_PARTITION",
    "ERNOULLI", "ETWEEN", "IGDECIMAL", "IGINT", "IGNUMERIC", "INARY", "IND", "INDING", "IT",
    "LANKSASNULL", "LOB", "LOCK", "LOOM", "LOOMFILTER", "OOL", "OOLEAN", "OOST", "OTH", "OX",
    "RIN", "ROWSE", "TREE", "UCKET", "UCKETS", "Y", "YPASSRLS", "YTEA", "YTES", "ZIP2"]),
  ('C', ["ACHE", "ALL", "ALLED", "ARDINALITY", "ASCADE", "ASCADED", "ASE", "ASES", "AST",
    "ATALOG", "ATALOG_SYNC", "ATALOG_SYNC_NAMESPACE_FLATTEN_DELIMITER",
    "ATALOG_SYNC_NAMESPACE_MODE", "ATCH", "EIL", "EILING", "ENTURY", "HAIN", "HANGE",
    "HANGE_TRACKING", "HANNEL", "HAR", "HARACTER", "HARACTERISTICS", "HARACTERS",
    "HARACTER_LENGTH", "HARSET", "HAR_LENGTH", "HECK", "HECKSUM", "IRCLE", "LEANPATH", "LEAR",
    "LOB", "LONE", "LOSE", "LUSTER", "LUSTERED", "LUSTERING", "OALESCE", "OLLATE", "OLLATION",
    "OLLECT", "OLLECTION", "OLUMN", "OLUMNS", "OLUMNSTORE", "OMMENT", "OMMIT", "OMMITTED",
    "OMPATIBLE", "OMPRESSION", "OMPUPDATE", "OMPUTE", "ONCURRENTLY", "ONDITION", "ONFLICT",
    "ONNECT", "ONNECTION", "ONNECTOR", "ONNECT_BY_ROOT", "ONSTRAINT", "ONTACT", "ONTAINS",
    "ONTINUE", "ONVERT", "OPY", "OPY_OPTIONS", "ORR", "ORRESPONDING", "OUNT", "OVAR_POP",
    "OVAR_SAMP", "REATE", "REATEDB", "REATEROLE", "REDENTIALS", "ROSS", "SV", "UBE", "UME_DIST",
    "URRENT", "URRENT_CATALOG", "URRENT_DATE", "URRENT_DEFAULT_TRANSFORM_GROUP", "URRENT_PATH",
    "URRENT_ROLE", "URRENT_ROW", "URRENT_SCHEMA", "URRENT_TIME", "URRENT_TIMESTAMP",
    "URRENT_TRANSFORM_GROUP_FOR_TYPE", "URRENT_USER", "URSOR", "YCLE"]),
  ('D', ["ATA", "ATABASE", "ATABASES", "ATA_RETENTION_TIME_IN_DAYS", "ATE", "ATE32", "ATEFORMAT",
    "ATETIME", "ATETIME64", "AY", "AYOFWEEK", "AYOFYEAR", "AYS", "CPROPERTIES", "EALLOCATE",
    "EC", "ECADE", "ECIMAL", "ECLARE", "EDUPLICATE", "EFAULT", "EFAULTS", "EFAULT_DDL_COLLATION",
    "EFERRABLE", "EFERRED", "EFINE", "EFINED", "EFINER", "ELAYED", "ELAY_KEY_WRITE", "ELETE",
    "ELIMITED", "ELIMITER", "ELTA", "ENSE_RANK", "ENY", "EREF", "ESC", "ESCRIBE", "ETACH",
    "ETAIL", "ETERMINISTIC", "IMENSIONS", "IRECTORY", "ISABLE", "ISCARD", "ISCONNECT", "ISTINCT",
    "ISTRIBUTE", "IV", "O", "OMAIN", "OUBLE", "OW", "OWNSTREAM", "OY", "ROP", "UPLICATE",
    "YNAMIC"]),
  ('E', ["ACH", "LEMENT", "LEMENTS", "LSE", "LSEIF", "MPTY", "MPTYASNULL", "NABLE",
    "NABLE_SCHEMA_EVOLUTION", "NCODING", "NCRYPTED", "NCRYPTION", "ND", "ND-EXEC", "NDPOINT",
    "ND_FRAME", "ND_PARTITION", "NFORCED", "NGINE", "NGINE_ATTRIBUTE", "NUM", "NUM16", "NUM8",
    "PHEMERAL", "POCH", "QUALS", "RROR", "SCAPE", "SCAPED", "STIMATE", "VEN", "VENT", "VERY",
    "VOLVE", "XCEPT", "XCEPTION", "XCHANGE", "XCLUDE", "XCLUDING", "XCLUSIVE", "XEC", "XECUTE",
    "XECUTION", "XISTS", "XP", "XPANSION", "XPLAIN", "XPLICIT", "XPORT", "XTEND", "XTENDED",
    "XTENSION", "XTERNAL", "XTERNAL_VOLUME", "XTRACT"]),
  ('F', ["ACTS", "AIL", "AILOVER", "ALSE", "AMILY", "ETCH", "IELDS", "ILE", "ILES", "ILE_FORMAT",
    "ILL", "ILTER", "INAL", "IRST", "IRST_VALUE", "IXEDSTRING", "IXEDWIDTH", "LATTEN", "LOAT",
    "LOAT32", "LOAT4", "LOAT64", "LOAT8", "LOOR", "LUSH", "N", "OLLOWING", "OR", "ORCE",
    "ORCE_NOT_NULL", "ORCE_NULL", "ORCE_QUOTE", "OREIGN", "ORMAT", "ORMATTED", "ORWARD",
    "RAME_ROW", "REE", "REEZE", "ROM", "ULFILLMENT", "ULL", "ULLTEXT", "UNCTION", "UNCTIONS",
    "USION", "UTURE"]),
  ('G', ["ENERAL", "ENERATE", "ENERATED", "EOGRAPHY", "ET", "IN", "IST", "LOBAL", "RANT",
    "RANTED", "RANTS", "RAPHVIZ", "ROUP", "ROUPING", "ROUPS", "ZIP"]),
  ('H', ["ASH", "AVING", "EADER", "EAP", "IGH_PRIORITY", "ISTORY", "IVEVAR", "OLD", "OSTS",
    "OUR", "OURS", "UGEINT"]),
  ('I', ["AM_ROLE", "CEBERG", "D", "DENTIFIED", "DENTITY", "DENTITY_INSERT", "F", "GNORE",
    "GNOREHEADER", "LIKE", "MMEDIATE", "MMUTABLE", "MPORT", "MPORTED", "N", "NCLUDE",
    "NCLUDE_NULL_VALUES", "NCLUDING", "NCREMENT", "NCREMENTAL", "NDEX", "NDICATOR", "NHERIT",
    "NHERITS", "NITIALIZE", "NITIALLY", "NNER", "NOUT", "NPATH", "NPLACE", "NPUT", "NPUTFORMAT",
    "NSENSITIVE", "NSERT", "NSERT_METHOD", "NSTALL", "NSTANT", "NSTEAD", "NT", "NT128", "NT16",
    "NT2", "NT256", "NT32", "NT4", "NT64", "NT8", "NTEGER", "NTEGRATION", "NTERPOLATE",
    "NTERSECT", "NTERSECTION", "NTERVAL", "NTO", "NVOKER", "O", "S", "SODOW", "SOLATION",
    "SOWEEK", "SOYEAR", "TEMS"]),
  ('J', ["AR", "OIN", "SON", "SONB", "SONFILE", "SON_TABLE", "ULIAN"]),
  ('K', ["EY", "EYS", "EY_BLOCK_SIZE", "ILL"]),
  ('L', ["AG", "ANGUAGE", "ARGE", "AST", "AST_VALUE", "ATERAL", "EAD", "EADING", "EFT", "EVEL",
    "IKE", "IKE_REGEX", "IMIT", "INE", "INES", "IST", "ISTEN", "ISTING", "N", "OAD", "OCAL",
    "OCALTIME", "OCALTIMESTAMP", "OCATION", "OCK", "OCKED", "OG", "OGIN", "OGS", "ONGBLOB",
    "ONGTEXT", "OWCARDINALITY", "OWER", "OW_PRIORITY", "S", "SEG"]),
  ('M', ["ACRO", "ANAGE", "ANAGED", "ANAGEDLOCATION", "ANIFEST", "AP", "ASKING", "ATCH",
    "ATCHED", "ATCHES", "ATCH_CONDITION", "ATCH_RECOGNIZE", "ATERIALIZE", "ATERIALIZED", "AX",
    "AXFILESIZE", "AXVALUE", "AX_DATA_EXTENSION_TIME_IN_DAYS", "AX_ROWS", "EASURES", "EDIUMBLOB",
    "EDIUMINT", "EDIUMTEXT", "EMBER", "ERGE", "ESSAGE", "ETADATA", "ETHOD", "ETRICS",
    "ICROSECOND", "ICROSECONDS", "ILLENIUM", "ILLENNIUM", "ILLISECOND", "ILLISECONDS", "IN",
    "INUS", "INUTE", "INUTES", "INVALUE", "IN_ROWS", "OD", "ODE", "ODIFIES", "ODIFY", "ODULE",
    "ONITOR", "ONTH", "ONTHS", "SCK", "ULTISET", "UTATION"]),
  ('N', ["AME", "AMES", "ANOSECOND", "ANOSECONDS", "ATIONAL", "ATURAL", "CHAR", "CLOB", "EST",
    "ESTED", "ETWORK", "EW", "EXT", "FC", "FD", "FKC", "FKD", "O", "OBYPASSRLS", "OCREATEDB",
    "OCREATEROLE", "OINHERIT", "OLOGIN", "ONE", "OORDER", "OREPLICATION", "ORMALIZE",
    "ORMALIZED", "OSCAN", "OSUPERUSER", "OT", "OTHING", "OTIFY", "OTNULL", "OWAIT",
    "O_WRITE_TO_BINLOG", "TH_VALUE", "TILE", "ULL", "ULLABLE", "ULLIF", "ULLS", "UMERIC",
    "VARCHAR"]),
  ('O', ["BJECT", "BJECTS", "CCURRENCES_REGEX", "CTETS", "CTET_LENGTH", "F", "FF", "FFLINE",
    "FFSET", "FFSETS", "LD", "MIT", "N", "NE", "NLY", "N_CREATE", "N_SCHEDULE", "PEN", "PENJSON",
    "PERATE", "PERATOR", "PTIMIZATION", "PTIMIZE", "PTIMIZED", "PTIMIZER_COSTS", "PTION",
    "PTIONS", "R", "RC", "RDER", "RDINALITY", "RGANIZATION", "THER", "UT", "UTER", "UTPUT",
    "UTPUTFORMAT", "VER", "VERFLOW", "VERLAPS", "VERLAY", "VERRIDE", "VERWRITE", "WNED", "WNER",
    "WNERSHIP"]),
  ('P', ["ACKAGE", "ACKAGES", "ACK_KEYS", "ARALLEL", "ARAMETER", "ARQUET", "ART", "ARTITION",
    "ARTITIONED", "ARTITIONS", "ASSING", "ASSWORD", "AST", "ATH", "ATTERN", "ER", "ERCENT",
    "ERCENTILE_CONT", "ERCENTILE_DISC", "ERCENT_RANK", "ERIOD", "ERMISSIVE", "ERSISTENT", "IVOT",
    "LACING", "LAN", "LANS", "OINT", "OLICY", "OLYGON", "OOL", "ORTION", "OSITION",
    "OSITION_REGEX", "OWER", "RAGMA", "RECEDES", "RECEDING", "RECISION", "REPARE", "RESERVE",
    "RESET", "REWHERE", "RIMARY", "RINT", "RIOR", "RIVILEGES", "ROCEDURE", "ROFILE", "ROGRAM",
    "ROJECTION", "UBLIC", "URCHASE", "URGE"]),
  ('Q', ["UALIFY", "UARTER", "UERIES", "UERY", "UOTE"]),
  ('R', ["AISE", "AISERROR", "ANGE", "ANK", "AW", "CFILE", "EAD", "EADS", "EAD_ONLY", "EAL",
    "ECLUSTER", "ECURSIVE", "EF", "EFERENCES", "EFERENCING", "EFRESH", "EFRESH_MODE", "EGCLASS",
    "EGEXP", "EGION", "EGR_AVGX", "EGR_AVGY", "EGR_COUNT", "EGR_INTERCEPT", "EGR_R2",
    "EGR_SLOPE", "EGR_SXX", "EGR_SXY", "EGR_SYY", "EINDEX", "ELATIVE", "ELAY", "ELEASE",
    "ELEASES", "EMOTE", "EMOVE", "EMOVEQUOTES", "ENAME", "EPAIR", "EPEATABLE", "EPLACE",
    "EPLACE_INVALID_CHARACTERS", "EPLICA", "EPLICATE", "EPLICATION", "EQUIRE", "ESET", "ESOLVE",
    "ESOURCE", "ESPECT", "ESTART", "ESTRICT", "ESTRICTED", "ESTRICTIONS", "ESTRICTIVE", "ESULT",
    "ESULTSET", "ESUME", "ETAIN", "ETURN", "ETURNING", "ETURNS", "EVOKE", "IGHT", "LIKE", "M",
    "OLE", "OLES", "OLLBACK", "OLLUP", "OOT", "OW", "OWGROUPSIZE", "OWID", "OWS", "OW_FORMAT",
    "OW_NUMBER", "ULE"]),
  ('S', ["AFE", "AFE_CAST", "AMPLE", "AVEPOINT", "CHEMA", "CHEMAS", "COPE", "CROLL", "EARCH",
    "ECOND", "ECONDARY", "ECONDARY_ENGINE_ATTRIBUTE", "ECONDS", "ECRET", "ECURE", "ECURITY",
    "EED", "ELECT", "EMANTIC_VIEW", "EMI", "ENSITIVE", "EPARATOR", "EQUENCE", "EQUENCEFILE",
    "EQUENCES", "ERDE", "ERDEPROPERTIES", "ERIALIZABLE", "ERVER", "ERVICE", "ESSION",
    "ESSION_USER", "ET", "ETERROR", "ETS", "ETTINGS", "HARE", "HARED", "HARING", "HOW", "IGNED",
    "IMILAR", "KIP", "LOW", "MALLINT", "NAPSHOT", "OME", "ORT", "ORTED", "OURCE", "PATIAL",
    "PECIFIC", "PECIFICTYPE", "PGIST", "QL", "QLEXCEPTION", "QLSTATE", "QLWARNING", "QRT", "RID",
    "TABLE", "TAGE", "TART", "TARTS", "TATEMENT", "TATIC", "TATISTICS", "TATS_AUTO_RECALC",
    "TATS_PERSISTENT", "TATS_SAMPLE_PAGES", "TATUPDATE", "TATUS", "TDDEV_POP", "TDDEV_SAMP",
    "TDIN", "TDOUT", "TEP", "TORAGE", "TORAGE_INTEGRATION", "TORAGE_SERIALIZATION_POLICY",
    "TORED", "TRAIGHT_JOIN", "TREAM", "TRICT", "TRING", "TRUCT", "UBMULTISET", "UBSTR",
    "UBSTRING", "UBSTRING_REGEX", "UCCEEDS", "UM", "UPER", "UPERUSER", "UPPORT", "USPEND", "WAP",
    "YMMETRIC", "YNC", "YNONYM", "YSTEM", "YSTEM_TIME", "YSTEM_USER"]),
  ('T', ["ABLE", "ABLES", "ABLESAMPLE", "ABLESPACE", "AG", "ARGET", "ARGET_LAG", "ASK",
    "BLPROPERTIES", "EMP", "EMPORARY", "EMPTABLE", "ERMINATED", "ERSE", "EXT", "EXTFILE", "HEN",
    "IES", "IME", "IMEFORMAT", "IMESTAMP", "IMESTAMPTZ", "IMESTAMP_NTZ", "IMETZ", "IMEZONE",
    "IMEZONE_ABBR", "IMEZONE_HOUR", "IMEZONE_MINUTE", "IMEZONE_REGION", "INYBLOB", "INYINT",
    "INYTEXT", "O", "OP", "OTALS", "RACE", "RAILING", "RANSACTION", "RANSIENT", "RANSLATE",
    "RANSLATE_REGEX", "RANSLATION", "REAT", "REE", "RIGGER", "RIM", "RIM_ARRAY", "RUE",
    "RUNCATE", "RUNCATECOLUMNS", "RY", "RY_CAST", "RY_CONVERT", "SQUERY", "SVECTOR", "UPLE",
    "YPE"]),
  ('U', ["BIGINT", "ESCAPE", "HUGEINT", "INT128", "INT16", "INT256", "INT32", "INT64", "INT8",
    "NBOUNDED", "NCACHE", "NCOMMITTED", "NDEFINED", "NFREEZE", "NION", "NIQUE", "NKNOWN",
    "NLISTEN", "NLOAD", "NLOCK", "NLOGGED", "NMATCHED", "NNEST", "NPIVOT", "NSAFE", "NSET",
    "NSIGNED", "NTIL", "PDATE", "PPER", "RL", "SAGE", "SE", "SER", "SER_RESOURCES", "SING",
    "SMALLINT", "TINYINT", "UID"]),
  ('V', ["ACUUM", "ALID", "ALIDATE", "ALIDATION_MODE", "ALUE", "ALUES", "ALUE_OF", "ARBINARY",
    "ARBIT", "ARCHAR", "ARIABLES", "ARYING", "AR_POP", "AR_SAMP", "ERBOSE", "ERSION",
    "ERSIONING", "ERSIONS", "IEW", "IEWS", "IRTUAL", "OLATILE", "OLUME"]),
  ('W', ["AREHOUSE", "AREHOUSES", "EEK", "EEKS", "HEN", "HENEVER", "HERE", "HILE", "IDTH_BUCKET",
    "INDOW", "ITH", "ITHIN", "ITHOUT", "ITHOUT_ARRAY_WRAPPER", "ORK", "RAPPER", "RITE"]),
  ('X', ["ML", "MLNAMESPACES", "MLTABLE", "OR"]),
  ('Y', ["EAR", "EARS"]),
  ('Z', ["ONE", "STD"])]

def isKnown (s : String) : Bool :=
  match s.toList with
  | [] => false
  | c :: cs => ((byLetter.lookup c).getD []).contains (String.ofList cs)

end NormalForms.Sql.Keyword
