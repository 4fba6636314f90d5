/-!
# The standard library

Names for the parts of common log lines.  A fragment uses plain groups only and may
refer to other names with tokens; fields come from tokens alone.
-/

namespace LogPattern.Builtin

def basicPatterns : List (String × String) := [
  ("USERNAME", r"[a-zA-Z0-9._-]+"),
  ("USER", r"%{USERNAME}"),
  ("EMAILLOCALPART", r"[a-zA-Z0-9._%+-]+"),
  ("EMAILADDRESS", r"%{EMAILLOCALPART}@%{HOSTNAME}"),
  ("INT", r"[+-]?[0-9]+"),
  ("BASE10NUM", r"[+-]?(?:[0-9]+(?:\.[0-9]+)?|\.[0-9]+)"),
  ("NUMBER", r"%{BASE10NUM}"),
  ("BASE16NUM", r"[+-]?(?:0x)?[0-9A-Fa-f]+"),
  ("POSINT", r"\b[1-9][0-9]*\b"),
  ("NONNEGINT", r"\b[0-9]+\b"),
  ("WORD", r"\b\w+\b"),
  ("NOTSPACE", r"\S+"),
  ("SPACE", r"\s*"),
  ("DATA", r".*?"),
  ("GREEDYDATA", r".*"),
  ("QUOTEDSTRING", r#""(?:[^"\\]|\\.)*"|'(?:[^'\\]|\\.)*'"#),
  ("QS", r"%{QUOTEDSTRING}"),
  ("UUID", r"[A-Fa-f0-9]{8}-(?:[A-Fa-f0-9]{4}-){3}[A-Fa-f0-9]{12}")
]

def networkPatterns : List (String × String) := [
  ("MAC", r"(?:[A-Fa-f0-9]{2}[:-]){5}[A-Fa-f0-9]{2}|(?:[A-Fa-f0-9]{4}\.){2}[A-Fa-f0-9]{4}"),
  ("IPV4", r"(?:[0-9]{1,3}\.){3}[0-9]{1,3}"),
  ("IPV6", "|".intercalate [
    r"(?:[0-9A-Fa-f]{1,4}:){7}[0-9A-Fa-f]{1,4}",
    r"[0-9A-Fa-f]{1,4}:(?::[0-9A-Fa-f]{1,4}){1,6}",
    r"(?:[0-9A-Fa-f]{1,4}:){1,2}(?::[0-9A-Fa-f]{1,4}){1,5}",
    r"(?:[0-9A-Fa-f]{1,4}:){1,3}(?::[0-9A-Fa-f]{1,4}){1,4}",
    r"(?:[0-9A-Fa-f]{1,4}:){1,4}(?::[0-9A-Fa-f]{1,4}){1,3}",
    r"(?:[0-9A-Fa-f]{1,4}:){1,5}(?::[0-9A-Fa-f]{1,4}){1,2}",
    r"(?:[0-9A-Fa-f]{1,4}:){1,6}:[0-9A-Fa-f]{1,4}",
    r"(?:[0-9A-Fa-f]{1,4}:){1,7}:",
    r":(?:(?::[0-9A-Fa-f]{1,4}){1,7}|:)"]),
  ("IP", r"%{IPV4}|%{IPV6}"),
  ("HOSTNAME", r"\b[0-9A-Za-z][0-9A-Za-z-]{0,62}(?:\.[0-9A-Za-z][0-9A-Za-z-]{0,62})*\.?\b"),
  ("IPORHOST", r"%{IP}|%{HOSTNAME}"),
  ("HOSTPORT", r"%{IPORHOST}:%{POSINT}")
]

def locationPatterns : List (String × String) := [
  ("UNIXPATH", r"(?:/[\w%!$@:.,+~-]*)+"),
  ("WINPATH", r"(?:[A-Za-z]+:|\\)(?:\\[^\\?*]*)+"),
  ("PATH", r"%{UNIXPATH}|%{WINPATH}"),
  ("URIPROTO", r"[A-Za-z][A-Za-z0-9+\-.]*"),
  ("URIHOST", r"%{IPORHOST}(?::%{POSINT})?"),
  ("URIPATH", r"(?:/[A-Za-z0-9$.+!*'(),~:;=@#%&_\-]*)+"),
  ("URIPARAM", r"\?[A-Za-z0-9$.+!*'|(),~@#%&/=:;_?\-\[\]<>]*"),
  ("URIPATHPARAM", r"%{URIPATH}(?:%{URIPARAM})?"),
  ("URI", r"%{URIPROTO}://(?:%{USER}(?::[^@]*)?@)?(?:%{URIHOST})?(?:%{URIPATHPARAM})?")
]

def timePatterns : List (String × String) := [
  ("MONTH",
    r"\b(?:Jan(?:uary)?|Feb(?:ruary)?|Mar(?:ch)?|Apr(?:il)?|May|Jun(?:e)?|Jul(?:y)?|Aug(?:ust)?|Sep(?:tember)?|Oct(?:ober)?|Nov(?:ember)?|Dec(?:ember)?)\b"),
  ("MONTHNUM", r"1[0-2]|0?[1-9]"),
  ("MONTHDAY", r"3[01]|[12][0-9]|0?[1-9]"),
  ("DAY",
    r"\b(?:Mon(?:day)?|Tue(?:sday)?|Wed(?:nesday)?|Thu(?:rsday)?|Fri(?:day)?|Sat(?:urday)?|Sun(?:day)?)\b"),
  ("YEAR", r"[0-9]{4}|[0-9]{2}"),
  ("HOUR", r"2[0-3]|[01]?[0-9]"),
  ("MINUTE", r"[0-5][0-9]"),
  ("SECOND", r"(?:[0-5]?[0-9]|60)(?:[:.,][0-9]+)?"),
  ("TIME", r"%{HOUR}:%{MINUTE}(?::%{SECOND})?"),
  ("DATE_US", r"%{MONTHNUM}[/-]%{MONTHDAY}[/-]%{YEAR}"),
  ("DATE_EU", r"%{MONTHDAY}[./-]%{MONTHNUM}[./-]%{YEAR}"),
  ("ISO8601_TIMEZONE", r"Z|[+-]%{HOUR}(?::?%{MINUTE})?"),
  ("ISO8601_SECOND", r"%{SECOND}"),
  ("TIMESTAMP_ISO8601",
    r"%{YEAR}-%{MONTHNUM}-%{MONTHDAY}[T ]%{HOUR}:%{MINUTE}:%{SECOND}(?:%{ISO8601_TIMEZONE})?"),
  ("DATE", r"%{DATE_US}|%{DATE_EU}"),
  ("DATESTAMP", r"%{DATE}[- ]%{TIME}"),
  ("TZ", r"[A-Z]{3}"),
  ("DATESTAMP_RFC822", r"%{DAY} %{MONTH} %{MONTHDAY} %{YEAR} %{TIME} %{TZ}"),
  ("SYSLOGTIMESTAMP", r"%{MONTH} +%{MONTHDAY} %{TIME}"),
  ("HTTPDATE", r"%{MONTHDAY}/%{MONTH}/%{YEAR}:%{TIME} %{INT}")
]

def logPatterns : List (String × String) := [
  ("LOGLEVEL",
    r"(?i:alert|trace|debug|notice|info(?:rmation)?|warn(?:ing)?|err(?:or)?|crit(?:ical)?|fatal|severe|emerg(?:ency)?)"),
  ("PROG", r"[\x21-\x5a\x5c\x5e-\x7e]+"),
  ("SYSLOGPROG", r"%{PROG:program}(?:\[%{POSINT:pid}\])?"),
  ("SYSLOGHOST", r"%{IPORHOST}"),
  ("SYSLOGBASE", r"%{SYSLOGTIMESTAMP:timestamp} %{SYSLOGHOST:logsource} %{SYSLOGPROG}:"),
  ("COMMONAPACHELOG",
    r#"%{IPORHOST:clientip} %{USER:ident} %{USER:auth} \[%{HTTPDATE:timestamp}\] "(?:%{WORD:verb} %{NOTSPACE:request}(?: HTTP/%{NUMBER:httpversion})?|%{DATA:rawrequest})" %{NUMBER:response} (?:%{NUMBER:bytes}|-)"#),
  ("COMBINEDAPACHELOG", r"%{COMMONAPACHELOG} %{QS:referrer} %{QS:agent}")]

/-- The standard library: names with their fragments. -/
def patterns : List (String × String) :=
  basicPatterns ++
    networkPatterns ++
    locationPatterns ++
    timePatterns ++
    logPatterns

end LogPattern.Builtin
