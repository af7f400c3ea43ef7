import Tabulate.Fault

/-!
# Levels of the log

The service logs what is at least as important as the level that its settings name. The name is
looked up in the log's namespace, which holds more than levels: a name that stands for nothing is
taken for `INFO`, one that stands for something without a use as a level is refused.
-/

namespace Tabulate

/-- The layout of a line of the log. -/
def logFormat : String := "%(asctime)s %(levelname)s %(name)s: %(message)s"

/-- The layout of a line that goes by the name `BASIC_FORMAT`. -/
def basicLogFormat : String := "%(levelname)s:%(name)s:%(message)s"

/-- The levels by their names, the most important first. -/
def logLevels : List (String × Nat) :=
  [ ("CRITICAL", 50), ("FATAL", 50), ("ERROR", 40), ("WARN", 30), ("WARNING", 30),
    ("INFO", 20), ("DEBUG", 10), ("NOTSET", 0) ]

/-- What a name of the log's namespace stands for: a value, or an object with the given text. -/
inductive LogName where
  | value (v : Value)
  | object (text : String)
  deriving DecidableEq, Inhabited

/-- The classes of the log, by their names. -/
def logClasses : List String :=
  [ "BufferingFormatter", "FileHandler", "Filter", "Filterer", "Formatter", "Handler",
    "LogRecord", "Logger", "LoggerAdapter", "Manager", "NullHandler", "PercentStyle", "PlaceHolder",
    "RootLogger", "StrFormatStyle", "StreamHandler", "StringTemplateStyle", "_StderrHandler" ]

/-- The names that are there for all. -/
def publicLogNames : List String :=
  [ "BASIC_FORMAT", "BufferingFormatter", "CRITICAL", "DEBUG", "ERROR", "FATAL",
    "FileHandler", "Filter", "Formatter", "Handler", "INFO", "LogRecord", "Logger", "LoggerAdapter",
    "NOTSET", "NullHandler", "StreamHandler", "WARN", "WARNING", "addLevelName", "basicConfig",
    "captureWarnings", "critical", "debug", "disable", "error", "exception", "fatal",
    "getLevelName", "getLogger", "getLoggerClass", "info", "log", "makeLogRecord", "setLoggerClass",
    "shutdown", "warn", "warning", "getLogRecordFactory", "setLogRecordFactory", "lastResort",
    "raiseExceptions", "getLevelNamesMapping" ]

/-- The class of a name. -/
def classObject (name : String) : LogName := .object ("<class '" ++ name ++ "'>")

/-- The names of the log's namespace and what they stand for, as far as that is the same in every
run. -/
def logNames : List (String × LogName) :=
  logLevels.map (fun (name, n) => (name, .value (.int n))) ++
  logClasses.map (fun name => (name, classObject ("logging." ++ name))) ++
  [ ("BASIC_FORMAT", .value (.str basicLogFormat)),
    ("GenericAlias", classObject "types.GenericAlias"),
    ("StrFormatter", classObject "string.Formatter"), ("Template", classObject "string.Template"),
    ("_loggerClass", classObject "logging.Logger"),
    ("_logRecordFactory", classObject "logging.LogRecord"), ("__class__", classObject "module"),
    ("__annotations__", .value (.record [])), ("__all__", .value (.list (publicLogNames.map .str))),
    ("__name__", .value (.str "logging")), ("__package__", .value (.str "logging")),
    ("__author__", .value (.str "Vinay Sajip <vinay_sajip@red-dove.com>")),
    ("__status__", .value (.str "production")), ("__version__", .value (.str "0.5.1.2")),
    ("__date__", .value (.str "07 February 2010")), ("logThreads", .value (.bool true)),
    ("logMultiprocessing", .value (.bool true)), ("logProcesses", .value (.bool true)),
    ("raiseExceptions", .value (.bool true)), ("_warnings_showwarning", .value .null),
    ("_nameToLevel", .value (.record (logLevels.map fun (name, n) => (name, .int n)))),
    ("_levelToName",
      .object ("\x7b50: 'CRITICAL', 40: 'ERROR', 30: 'WARNING', 20: 'INFO', " ++
        "10: 'DEBUG', 0: 'NOTSET'\x7d")),
    ("_STYLES",
      .object
        ("\x7b'%': (<class 'logging.PercentStyle'>, '" ++ basicLogFormat ++ "'), " ++
          "'\x7b': (<class 'logging.StrFormatStyle'>, " ++
          "'\x7blevelname\x7d:\x7bname\x7d:\x7bmessage\x7d'), " ++
          "'$': (<class 'logging.StringTemplateStyle'>, " ++
          "'$\x7blevelname\x7d:$\x7bname\x7d:$\x7bmessage\x7d')\x7d")),
    ("root", .object "<RootLogger root (WARNING)>"),
    ("lastResort", .object "<_StderrHandler <stderr> (WARNING)>"),
    ("_defaultLastResort", .object "<_StderrHandler <stderr> (WARNING)>"),
    ("atexit", .object "<module 'atexit' (built-in)>"), ("io", .object "<module 'io' (frozen)>"),
    ("os", .object "<module 'os' (frozen)>"), ("sys", .object "<module 'sys' (built-in)>"),
    ("time", .object "<module 'time' (built-in)>") ]

/-- The level that a name sets: a number, or a truth value in its place. A name that stands for
nothing yet leaves the level at `WARNING`. -/
def logLevel (name : String) : Except Fault Value :=
  match logNames.lookup name with
  | none => .ok (.int 20)
  | some (.object text) => .error (.notLevel text)
  | some (.value v) =>
    match v with
    | .int _ | .bool _ => .ok v
    | .null => .ok (.int 30)
    | .str s => .error (.unknownLevel s)
    | v => .error (.notLevel v.inspect)

end Tabulate
