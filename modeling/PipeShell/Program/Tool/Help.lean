/-!
# What the tools say about themselves

The lines with which each tool explains its options.  An at sign stands for the name under which the tool was called.
-/

namespace PipeShell.Tool.Help

def cat : List String := [
    "Usage: @ [OPTION]... [FILE]...",
    "Concatenate FILE(s) to standard output.",
    "",
    "With no FILE, or when FILE is -, read standard input.",
    "",
    "  -A, --show-all           equivalent to -vET",
    "  -b, --number-nonblank    number nonempty output lines, overrides -n",
    "  -e                       equivalent to -vE",
    "  -E, --show-ends          display $ at end of each line",
    "  -n, --number             number all output lines",
    "  -s, --squeeze-blank      suppress repeated empty output lines",
    "  -t                       equivalent to -vT",
    "  -T, --show-tabs          display TAB characters as ^I",
    "  -u                       (ignored)",
    "  -v, --show-nonprinting   use ^ and M- notation, except for LFD and TAB",
    "      --help        display this help and exit",
    "      --version     output version information and exit",
    "",
    "Examples:",
    "  @ f - g  Output f's contents, then standard input, then g's contents.",
    "  @        Copy standard input to standard output.",
    ""]

def head : List String := [
    "Usage: @ [OPTION]... [FILE]...",
    "Print the first 10 lines of each FILE to standard output.",
    "With more than one FILE, precede each with a header giving the file name.",
    "",
    "With no FILE, or when FILE is -, read standard input.",
    "",
    "Mandatory arguments to long options are mandatory for short options too.",
    "  -c, --bytes=[-]NUM       print the first NUM bytes of each file;",
    "                             with the leading '-', print all but the last",
    "                             NUM bytes of each file",
    "  -n, --lines=[-]NUM       print the first NUM lines instead of the first 10;",
    "                             with the leading '-', print all but the last",
    "                             NUM lines of each file",
    "  -q, --quiet, --silent    never print headers giving file names",
    "  -v, --verbose            always print headers giving file names",
    "  -z, --zero-terminated    line delimiter is NUL, not newline",
    "      --help        display this help and exit",
    "      --version     output version information and exit",
    "",
    "NUM may have a multiplier suffix:",
    "b 512, kB 1000, K 1024, MB 1000*1000, M 1024*1024,",
    "GB 1000*1000*1000, G 1024*1024*1024, and so on for T, P, E, Z, Y, R, Q.",
    "Binary prefixes can be used, too: KiB=K, MiB=M, and so on.",
    ""]

def wc : List String := [
    "Usage: @ [OPTION]... [FILE]...",
    "  or:  @ [OPTION]... --files0-from=F",
    "Print newline, word, and byte counts for each FILE, and a total line if",
    "more than one FILE is specified.  A word is a non-zero-length sequence of",
    "printable characters delimited by white space.",
    "",
    "With no FILE, or when FILE is -, read standard input.",
    "",
    "The options below may be used to select which counts are printed, always in",
    "the following order: newline, word, character, byte, maximum line length.",
    "  -c, --bytes            print the byte counts",
    "  -m, --chars            print the character counts",
    "  -l, --lines            print the newline counts",
    "      --files0-from=F    read input from the files specified by",
    "                           NUL-terminated names in file F;",
    "                           If F is - then read names from standard input",
    "  -L, --max-line-length  print the maximum display width",
    "  -w, --words            print the word counts",
    "      --total=WHEN       when to print a line with total counts;",
    "                           WHEN can be: auto, always, only, never",
    "      --help        display this help and exit",
    "      --version     output version information and exit",
    ""]

def tr : List String := [
    "Usage: @ [OPTION]... STRING1 [STRING2]",
    "Translate, squeeze, and/or delete characters from standard input,",
    "writing to standard output.  STRING1 and STRING2 specify arrays of",
    "characters ARRAY1 and ARRAY2 that control the action.",
    "",
    "  -c, -C, --complement    use the complement of ARRAY1",
    "  -d, --delete            delete characters in ARRAY1, do not translate",
    "  -s, --squeeze-repeats   replace each sequence of a repeated character",
    "                            that is listed in the last specified ARRAY,",
    "                            with a single occurrence of that character",
    "  -t, --truncate-set1     first truncate ARRAY1 to length of ARRAY2",
    "      --help        display this help and exit",
    "      --version     output version information and exit",
    "",
    "ARRAYs are specified as strings of characters.  Most represent themselves.",
    "Interpreted sequences are:",
    "",
    "  \\NNN            character with octal value NNN (1 to 3 octal digits)",
    "  \\\\              backslash",
    "  \\a              audible BEL",
    "  \\b              backspace",
    "  \\f              form feed",
    "  \\n              new line",
    "  \\r              return",
    "  \\t              horizontal tab",
    "  \\v              vertical tab",
    "  CHAR1-CHAR2     all characters from CHAR1 to CHAR2 in ascending order",
    "  [CHAR*]         in ARRAY2, copies of CHAR until length of ARRAY1",
    "  [CHAR*REPEAT]   REPEAT copies of CHAR, REPEAT octal if starting with 0",
    "  [:alnum:]       all letters and digits",
    "  [:alpha:]       all letters",
    "  [:blank:]       all horizontal whitespace",
    "  [:cntrl:]       all control characters",
    "  [:digit:]       all digits",
    "  [:graph:]       all printable characters, not including space",
    "  [:lower:]       all lower case letters",
    "  [:print:]       all printable characters, including space",
    "  [:punct:]       all punctuation characters",
    "  [:space:]       all horizontal or vertical whitespace",
    "  [:upper:]       all upper case letters",
    "  [:xdigit:]      all hexadecimal digits",
    "  [=CHAR=]        all characters which are equivalent to CHAR",
    "",
    "Translation occurs if -d is not given and both STRING1 and STRING2 appear.",
    "-t is only significant when translating.  ARRAY2 is extended to length of",
    "ARRAY1 by repeating its last character as necessary.  Excess characters",
    "of ARRAY2 are ignored.  Character classes expand in unspecified order;",
    "while translating, [:lower:] and [:upper:] may be used in pairs to",
    "specify case conversion.  Squeezing occurs after translation or deletion.",
    ""]

def sort : List String := [
    "Usage: @ [OPTION]... [FILE]...",
    "  or:  @ [OPTION]... --files0-from=F",
    "Write sorted concatenation of all FILE(s) to standard output.",
    "",
    "With no FILE, or when FILE is -, read standard input.",
    "",
    "Mandatory arguments to long options are mandatory for short options too.",
    "Ordering options:",
    "",
    "  -b, --ignore-leading-blanks  ignore leading blanks",
    "  -d, --dictionary-order      consider only blanks and alphanumeric characters",
    "  -f, --ignore-case           fold lower case to upper case characters",
    "  -g, --general-numeric-sort  compare according to general numerical value",
    "  -i, --ignore-nonprinting    consider only printable characters",
    "  -M, --month-sort            compare (unknown) < 'JAN' < ... < 'DEC'",
    "  -h, --human-numeric-sort    compare human readable numbers (e.g., 2K 1G)",
    "  -n, --numeric-sort          compare according to string numerical value",
    "  -R, --random-sort           shuffle, but group identical keys.  See shuf(1)",
    "      --random-source=FILE    get random bytes from FILE",
    "  -r, --reverse               reverse the result of comparisons",
    "      --sort=WORD             sort according to WORD:",
    "                                general-numeric -g, human-numeric -h, month -M,",
    "                                numeric -n, random -R, version -V",
    "  -V, --version-sort          natural sort of (version) numbers within text",
    "",
    "Other options:",
    "",
    "      --batch-size=NMERGE   merge at most NMERGE inputs at once;",
    "                            for more use temp files",
    "  -c, --check, --check=diagnose-first  check for sorted input; do not sort",
    "  -C, --check=quiet, --check=silent  like -c, but do not report first bad line",
    "      --compress-program=PROG  compress temporaries with PROG;",
    "                              decompress them with PROG -d",
    "      --debug               annotate the part of the line used to sort,",
    "                              and warn about questionable usage to stderr",
    "      --files0-from=F       read input from the files specified by",
    "                            NUL-terminated names in file F;",
    "                            If F is - then read names from standard input",
    "  -k, --key=KEYDEF          sort via a key; KEYDEF gives location and type",
    "  -m, --merge               merge already sorted files; do not sort",
    "  -o, --output=FILE         write result to FILE instead of standard output",
    "  -s, --stable              stabilize sort by disabling last-resort comparison",
    "  -S, --buffer-size=SIZE    use SIZE for main memory buffer",
    "  -t, --field-separator=SEP  use SEP instead of non-blank to blank transition",
    "  -T, --temporary-directory=DIR  use DIR for temporaries, not $TMPDIR or /tmp;",
    "                              multiple options specify multiple directories",
    "      --parallel=N          change the number of sorts run concurrently to N",
    "  -u, --unique              with -c, check for strict ordering;",
    "                              without -c, output only the first of an equal run",
    "  -z, --zero-terminated     line delimiter is NUL, not newline",
    "      --help        display this help and exit",
    "      --version     output version information and exit",
    "",
    "KEYDEF is F[.C][OPTS][,F[.C][OPTS]] for start and stop position, where F is a",
    "field number and C a character position in the field; both are origin 1, and",
    "the stop position defaults to the line's end.  If neither -t nor -b is in",
    "effect, characters in a field are counted from the beginning of the preceding",
    "whitespace.  OPTS is one or more single-letter ordering options [bdfgiMhnRrV],",
    "which override global ordering options for that key.  If no key is given, use",
    "the entire line as the key.  Use --debug to diagnose incorrect key usage.",
    "",
    "SIZE may be followed by the following multiplicative suffixes:",
    "% 1% of memory, b 1, K 1024 (default), and so on for M, G, T, P, E, Z, Y, R, Q.",
    "",
    "*** WARNING ***",
    "The locale specified by the environment affects sort order.",
    "Set LC_ALL=C to get the traditional sort order that uses",
    "native byte values.",
    ""]

def yes : List String := [
    "Usage: @ [STRING]...",
    "  or:  @ OPTION",
    "Repeatedly output a line with all specified STRING(s), or 'y'.",
    "",
    "      --help        display this help and exit",
    "      --version     output version information and exit",
    ""]

def succeed : List String := [
    "Usage: @ [ignored command line arguments]",
    "  or:  @ OPTION",
    "Exit with a status code indicating success.",
    "",
    "      --help        display this help and exit",
    "      --version     output version information and exit",
    "",
    "NOTE: your shell may have its own version of true, which usually supersedes",
    "the version described here.  Please refer to your shell's documentation",
    "for details about the options it supports.",
    ""]

def fail : List String := [
    "Usage: @ [ignored command line arguments]",
    "  or:  @ OPTION",
    "Exit with a status code indicating failure.",
    "",
    "      --help        display this help and exit",
    "      --version     output version information and exit",
    "",
    "NOTE: your shell may have its own version of false, which usually supersedes",
    "the version described here.  Please refer to your shell's documentation",
    "for details about the options it supports.",
    ""]

def rm : List String := [
    "Usage: @ [OPTION]... [FILE]...",
    "Remove (unlink) the FILE(s).",
    "",
    "  -f, --force           ignore nonexistent files and arguments, never prompt",
    "  -i                    prompt before every removal",
    "  -I                    prompt once before removing more than three files, or",
    "                          when removing recursively; less intrusive than -i,",
    "                          while still giving protection against most mistakes",
    "      --interactive[=WHEN]  prompt according to WHEN: never, once (-I), or",
    "                          always (-i); without WHEN, prompt always",
    "      --one-file-system  when removing a hierarchy recursively, skip any",
    "                          directory that is on a file system different from",
    "                          that of the corresponding command line argument",
    "      --no-preserve-root  do not treat '/' specially",
    "      --preserve-root[=all]  do not remove '/' (default);",
    "                              with 'all', reject any command line argument",
    "                              on a separate device from its parent",
    "  -r, -R, --recursive   remove directories and their contents recursively",
    "  -d, --dir             remove empty directories",
    "  -v, --verbose         explain what is being done",
    "      --help        display this help and exit",
    "      --version     output version information and exit",
    "",
    "By default, rm does not remove directories.  Use the --recursive (-r or -R)",
    "option to remove each listed directory, too, along with all of its contents.",
    "",
    "To remove a file whose name starts with a '-', for example '-foo',",
    "use one of these commands:",
    "  @ -- -foo",
    "",
    "  @ ./-foo",
    "",
    "Note that if you use rm to remove a file, it might be possible to recover",
    "some of its contents, given sufficient expertise and/or time.  For greater",
    "assurance that the contents are truly unrecoverable, consider using shred(1).",
    ""]

def mkdir : List String := [
    "Usage: @ [OPTION]... DIRECTORY...",
    "Create the DIRECTORY(ies), if they do not already exist.",
    "",
    "Mandatory arguments to long options are mandatory for short options too.",
    "  -m, --mode=MODE   set file mode (as in chmod), not a=rwx - umask",
    "  -p, --parents     no error if existing, make parent directories as needed,",
    "                    with their file modes unaffected by any -m option.",
    "  -v, --verbose     print a message for each created directory",
    "  -Z                   set SELinux security context of each created directory",
    "                         to the default type",
    "      --context[=CTX]  like -Z, or if CTX is specified then set the SELinux",
    "                         or SMACK security context to CTX",
    "      --help        display this help and exit",
    "      --version     output version information and exit",
    ""]

def chmod : List String := [
    "Usage: @ [OPTION]... MODE[,MODE]... FILE...",
    "  or:  @ [OPTION]... OCTAL-MODE FILE...",
    "  or:  @ [OPTION]... --reference=RFILE FILE...",
    "Change the mode of each FILE to MODE.",
    "With --reference, change the mode of each FILE to that of RFILE.",
    "",
    "  -c, --changes          like verbose but report only when a change is made",
    "  -f, --silent, --quiet  suppress most error messages",
    "  -v, --verbose          output a diagnostic for every file processed",
    "      --no-preserve-root  do not treat '/' specially (the default)",
    "      --preserve-root    fail to operate recursively on '/'",
    "      --reference=RFILE  use RFILE's mode instead of specifying MODE values.",
    "                         RFILE is always dereferenced if a symbolic link.",
    "  -R, --recursive        change files and directories recursively",
    "      --help        display this help and exit",
    "      --version     output version information and exit",
    "",
    "Each MODE is of the form '[ugoa]*([-+=]([rwxXst]*|[ugo]))+|[-+=][0-7]+'.",
    ""]

def rmdir : List String := [
    "Usage: @ [OPTION]... DIRECTORY...",
    "Remove the DIRECTORY(ies), if they are empty.",
    "",
    "      --ignore-fail-on-non-empty",
    "                    ignore each failure to remove a non-empty directory",
    "  -p, --parents     remove DIRECTORY and its ancestors;",
    "                    e.g., 'rmdir -p a/b' is similar to 'rmdir a/b a'",
    "",
    "  -v, --verbose     output a diagnostic for every directory processed",
    "      --help        display this help and exit",
    "      --version     output version information and exit",
    ""]

def touch : List String := [
    "Usage: @ [OPTION]... FILE...",
    "Update the access and modification times of each FILE to the current time.",
    "",
    "A FILE argument that does not exist is created empty, unless -c or -h",
    "is supplied.",
    "",
    "A FILE argument string of - is handled specially and causes touch to",
    "change the times of the file associated with standard output.",
    "",
    "Mandatory arguments to long options are mandatory for short options too.",
    "  -a                     change only the access time",
    "  -c, --no-create        do not create any files",
    "  -d, --date=STRING      parse STRING and use it instead of current time",
    "  -f                     (ignored)",
    "  -h, --no-dereference   affect each symbolic link instead of any referenced",
    "                         file (useful only on systems that can change the",
    "                         timestamps of a symlink)",
    "  -m                     change only the modification time",
    "  -r, --reference=FILE   use this file's times instead of current time",
    "  -t STAMP               use [[CC]YY]MMDDhhmm[.ss] instead of current time",
    "      --time=WORD        change the specified time:",
    "                           WORD is access, atime, or use: equivalent to -a",
    "                           WORD is modify or mtime: equivalent to -m",
    "      --help        display this help and exit",
    "      --version     output version information and exit",
    "",
    "Note that the -d and -t options accept different time-date formats.",
    ""]

end PipeShell.Tool.Help
