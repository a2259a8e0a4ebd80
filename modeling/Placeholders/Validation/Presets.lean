import Placeholders.Validation.RuleSet

/-!
# Built-in rule-sets

Rule-sets for common kinds of values, under ids that every placeholder may name.

* The shapes are regular expressions; longer ones are put together from parts with names.
* `builtIn` is in the order in which the rule-sets are listed here. A failure to read one of the
  patterns would show as an error of `builtIn?`.
-/

namespace Placeholders.Validation.Presets

/-! ## 1. Shapes -/

/-- A slash and a number from 0 to 32. -/
def cidrSuffix : String := "/(3[0-2]|[12]?[0-9])"

/-- A number from 0 to 255, with up to two leading zeros. -/
def ipv4Segment : String := "(?:25[0-5]|2[0-4][0-9]|[01]?[0-9][0-9]?)"

/-- A shape repeated, with the counts as they stand between the braces. -/
def counted (shape counts : String) : String := shape ++ "\x7b" ++ counts ++ "\x7d"

/-- Four segments with dots between them. -/
def ipv4Address : String := ipv4Segment ++ counted ("(?:\\." ++ ipv4Segment ++ ")") "3"

/-- A segment or two segments with a dash between them. -/
def ipv4Span : String := ipv4Segment ++ "(-" ++ ipv4Segment ++ ")?"

/-- Four spans with dots between them. -/
def ipv4Spans : String := ipv4Span ++ counted ("(?:\\." ++ ipv4Span ++ ")") "3"

/-- One to four hexadecimal digits. -/
def ipv6Group : String := counted "[0-9a-fA-F]" "1,4"

/-- Groups with a colon after each. -/
def ipv6Leading (counts : String) : String := counted ("(" ++ ipv6Group ++ ":)") counts

/-- Groups with a colon before each. -/
def ipv6Trailing (counts : String) : String := counted ("(:" ++ ipv6Group ++ ")") counts

/-- A number from 0 to 255 as it stands inside an IPv6 address, without leading zeros. -/
def ipv6Octet : String := "(25[0-5]|(2[0-4]|1?[0-9])?[0-9])"

/-- Four of them with dots between them. -/
def ipv6Quad : String := counted ("(" ++ ipv6Octet ++ "\\.)") "3" ++ ipv6Octet

/-- The written forms of an IPv6 address: in full, shortened at any place, link-local with a zone,
    and with an IPv4 address at the end. -/
def ipv6Forms : List String := [
  ipv6Leading "7" ++ ipv6Group,
  ipv6Leading "1,7" ++ ":",
  ipv6Leading "1,6" ++ ":" ++ ipv6Group,
  ipv6Leading "1,5" ++ ipv6Trailing "1,2",
  ipv6Leading "1,4" ++ ipv6Trailing "1,3",
  ipv6Leading "1,3" ++ ipv6Trailing "1,4",
  ipv6Leading "1,2" ++ ipv6Trailing "1,5",
  ipv6Group ++ ":(" ++ ipv6Trailing "1,6" ++ ")",
  ":(" ++ ipv6Trailing "1,7" ++ "|:)",
  "fe80:" ++ counted ("(:" ++ counted "[0-9a-fA-F]" "0,4" ++ ")") "0,4" ++ "%[0-9a-zA-Z]+",
  "::(ffff(:" ++ counted "0" "1,4" ++ ")?:)?" ++ ipv6Quad,
  ipv6Leading "1,4" ++ ":" ++ ipv6Quad]

/-- Any of the written forms of an IPv6 address. -/
def ipv6Shape : String := "(" ++ String.intercalate "|" ipv6Forms ++ ")"

/-- An address with a scheme. -/
def urlShape : String :=
  "[a-zA-Z0-9-]+://(?:[a-zA-Z]|[0-9]|[$-_@.&+]|[!*\\(\\),]|(?:%[0-9a-fA-F][0-9a-fA-F]))+(#\\S*)?"

/-- A number from 0 to 65535, by the place where it first falls below the bound. Up to five digits
    from 0 to 5 have a form of their own. -/
def portForms : List String := [
  "(6553[0-5])",
  "(655[0-2][0-9])",
  "(65[0-4]" ++ counted "[0-9]" "2" ++ ")",
  "(6[0-4]" ++ counted "[0-9]" "3" ++ ")",
  "([1-5]" ++ counted "[0-9]" "4" ++ ")",
  "(" ++ counted "[0-5]" "0,5" ++ ")",
  "(" ++ counted "[0-9]" "1,4" ++ ")"]

/-- Any of the forms of a port number. -/
def portShape : String := "^(" ++ String.intercalate "|" portForms ++ ")$"

/-- Six pairs of hexadecimal digits. -/
def macShape : String :=
  "^" ++ counted "[a-fA-F0-9]" "2" ++ counted ("(:" ++ counted "[a-fA-F0-9]" "2" ++ ")") "5" ++ "$"

/-- A group of hexadecimal digits. -/
def uuidGroup (count : String) : String := counted "[0-9a-fA-F]" count

/-- Five groups of hexadecimal digits. -/
def uuidShape : String :=
  "^" ++ String.intercalate "\\b-" [uuidGroup "8", uuidGroup "4", uuidGroup "4", uuidGroup "4"]
    ++ "\\b-" ++ uuidGroup "12" ++ "$"

/-- A pattern that must match the whole value. -/
def whole (shape : String) : String := "^" ++ shape ++ "$"

/-! ## 2. Rules that several rule-sets share -/

/-- The rules of a host name. -/
def domainRules : Except RuleError (List Rule) := do
  return [
    ← mustMatch "^[a-zA-Z0-9.-]+$"
      "Only letters, numbers, dashes (minus signs), and dots are allowed",
    ← mustMatch "^[^.-]" "Can not begin with a dot or dash (minus sign)",
    ← mustMatch "[^.-]$" "Can not end with a dot or dash (minus sign)",
    ← shouldNotMatch (counted "[a-zA-Z0-9-]" "64")
      "Subdomains should not be longer than 63 characters"]

/-- No blanks in an address. -/
def urlWithoutBlanks : Except RuleError Rule :=
  mustNotMatch "\\s"
    ("URLs may not contain whitespace. Please URL encode it. "
      ++ "For example a space should be replaced with '%20'")

/-- Something has to be there. -/
def notEmpty : Except RuleError Rule :=
  mustMatch "^.+$" "Can not be empty"

/-- Blanks are better left out. -/
def warnOfBlanks : Except RuleError Rule :=
  shouldNotMatch "\\s" "Should not contain whitespace"

/-! ## 3. The rule-sets -/

/-- The built-in rule-sets, or the error in one of them. -/
def builtIn? : Except RuleError (List RuleSet) := do
  return [
    ← RuleSet.ofRules "ipv4_address" "IPv4 address" [
      ← mustMatch "^[0-9.]+$" "Only numbers and dots are allowed",
      ← shouldMatch (whole ipv4Address) "Expected an value like 123.4.56.78"],
    ← RuleSet.ofRules "ipv4_range_cidr" "IPv4 address range (CIDR notation)" [
      ← mustMatch "^[0-9./]+$" "Only numbers, dots and a slash are allowed",
      ← mustNotMatch "/.*/" "May only contain one slash",
      ← mustMatch (cidrSuffix ++ "$")
        "The number after that slash needs to be between 0 and 32 (inclusive)",
      ← shouldMatch (whole (ipv4Address ++ "/[0-9]+")) "Expected an value like 123.4.56.0/24"],
    ← RuleSet.ofRules "ipv4_range_dashes" "IPv4 address range (dash)" [
      ← mustMatch "^[0-9.-]+$" "Only numbers, dots and minuses are allowed",
      ← mustNotMatch "(-\\.|\\.-|^-|-$)" "Number should be on both sites of the dash",
      ← mustNotMatch "--" "Consecutive dashes are not allowed",
      ← shouldMatch (whole ipv4Spans) "Expected an value like 123.4-5.56.78-90"],
    ← RuleSet.ofRules "ipv6_address" "IPv6 address" [
      ← mustMatch "^[0-9a-fA-F:.\\[\\]]+$"
        "Only numbers, the letters A-F, colons, dots, and square brackets are allowed",
      ← shouldMatch (whole ipv6Shape)
        "Should probably look like '2001:0db8:85a3:0000:0000:8a2e:0370:7334' or '::1'",
      ← shouldNotMatch (whole ipv4Address)
        ("Should not be an IPv4 address. If you want a IPv4-mapped IPv6 address, "
          ++ "prefix it with '::FFFF:' like this: '::FFFF:123.4.56.78'")],
    ← RuleSet.ofRules "domain" "Domain name" ((← domainRules) ++ [
      ← shouldMatch "\\."
        "Should contain multiple elements (for example domain.com or my.domain.com)"]),
    ← RuleSet.ofRules "hostname" "Hostname" (← domainRules),
    ← RuleSet.ofRules "url_any" "URL (any protocol)" [
      ← urlWithoutBlanks,
      ← shouldMatch (whole urlShape)
        "Expected an value like smb://example.com:10445/share/some-file.txt"],
    ← RuleSet.ofRules "url_http" "URL (HTTP / HTTPS)" [
      ← mustMatch "^https?://" "Needs to start with 'http://' or 'https://'",
      ← urlWithoutBlanks,
      ← shouldMatch (whole urlShape)
        "Expected an value like https://example.com/some/page.php?x=1&y=some%20value"],
    ← RuleSet.ofRules "port_number" "TCP/UDP port" [
      ← mustMatch "^[0-9]+$" "Only numbers are allowed",
      ← shouldMatch portShape "Expected an number between 0 and 65535 (inclusive)"],
    ← RuleSet.ofRules "file_name_linux" "File name" [
      ← notEmpty,
      ← mustNotMatch "/" "Can not contain path separators (slash)",
      ← warnOfBlanks],
    ← RuleSet.ofRules "file_name_windows" "File name" [
      ← notEmpty,
      ← mustNotMatch "[/\\\\]" "Can not contain path separators (slash or backslash)",
      ← mustNotMatch "[<>:\"|?*]" "Can not contain prohibited characters: '<>:\"|?*'",
      ← warnOfBlanks],
    ← RuleSet.ofRules "path_linux" "File path (Linux)" [← notEmpty, ← warnOfBlanks],
    ← RuleSet.ofRules "path_windows" "File path (Windows)" [
      ← notEmpty,
      ← shouldNotMatch "[<>\"|?*]" "Can not contain prohibited characters: '<>\"|?*'",
      ← warnOfBlanks],
    ← RuleSet.ofRules "uuid" "UUID" [
      ← mustMatch uuidShape "Should look like '123e4567-e89b-12d3-a456-426614174000'",
      ← mustNotMatch "[^0-9a-fA-F-]" "Can only contain hexadecimal digits and hyphens"],
    ← RuleSet.ofRules "mac_address" "MAC address" [
      ← mustMatch macShape "Should look like '01:23:45:67:89:AB'"],
    ← RuleSet.ofRules "email" "Email address" [
      ← mustMatch "^[^@]*@[^@]*$" "Must contain exactly one '@' character",
      ← mustMatch "@[a-zA-Z0-9.-]+$"
        ("Only letters, numbers, dashes (minus signs), and dots are allowed "
          ++ "after the @ sign"),
      ← mustMatch "@.+\\...+" "Must have a full domain (like 'gmail.com') after the at sign",
      ← mustNotMatch "\\s" "Can not contain whitespace"],
    ← RuleSet.ofRules "linux_interface" "Linux network interface" [
      ← shouldMatch "^[a-z0-9_-]+$"
        "Should only contain lowercase letters, numbers, underscores, and dashes",
      ← notEmpty]]

/-- The built-in rule-sets. -/
def builtIn : List RuleSet := builtIn?.toOption.getD []

/-- A built-in rule-set by its id. -/
def find? (id : String) : Option RuleSet :=
  builtIn.find? fun set => set.id == id

end Placeholders.Validation.Presets
