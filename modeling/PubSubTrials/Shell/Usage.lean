/-!
# How builtin commands are used

The line by which the extended dialect tells how a builtin command is used, after an option that
the command does not know.
-/

namespace PubSubTrials.Shell

/-- What may follow the names of builtin commands. -/
def usages : List (String × String) :=
  [(".", "filename [arguments]"), (":", ""), ("alias", "[-p] [name[=value] ... ]"),
   ("builtin", "[shell-builtin [arg ...]]"), ("caller", "[expr]"),
   ("cd", "[-L|[-P [-e]] [-@]] [dir]"),
   ("command", "[-pVv] command [arg ...]"),
   ("declare",
    "[-aAfFgiIlnrtux] [name[=value] ...] or declare -p [-aAfFilnrtux] [name ...]"),
   ("dirs", "[-clpv] [+N] [-N]"), ("disown", "[-h] [-ar] [jobspec ... | pid ...]"),
   ("eval", "[arg ...]"),
   ("exec", "[-cl] [-a name] [command [argument ...]] [redirection ...]"),
   ("export", "[-fn] [name[=value] ...] or export -p"),
   ("getopts", "optstring name [arg ...]"), ("hash", "[-lr] [-p pathname] [-dt] [name ...]"),
   ("jobs", "[-lnprs] [jobspec ...] or jobs -x command [args]"),
   ("kill", "[-s sigspec | -n signum | -sigspec] pid | jobspec ... or kill -l [sigspec]"),
   ("local", "[option] name[=value] ..."),
   ("mapfile", "[-d delim] [-n count] [-O origin] [-s count] [-t] [-u fd] [-C callback] " ++
    "[-c quantum] [array]"),
   ("popd", "[-n] [+N | -N]"), ("printf", "[-v var] format [arguments]"),
   ("pushd", "[-n] [+N | -N | dir]"), ("pwd", "[-LP]"),
   ("read", "[-ers] [-a array] [-d delim] [-i text] [-n nchars] [-N nchars] [-p prompt] " ++
    "[-t timeout] [-u fd] [name ...]"),
   ("readarray", "[-d delim] [-n count] [-O origin] [-s count] [-t] [-u fd] [-C callback] " ++
    "[-c quantum] [array]"),
   ("readonly", "[-aAf] [name[=value] ...] or readonly -p"),
   ("set", "[-abefhkmnptuvxBCEHPT] [-o option-name] [--] [-] [arg ...]"),
   ("shopt", "[-pqsu] [-o] [optname ...]"), ("source", "filename [arguments]"),
   ("times", ""), ("trap", "[-lp] [[arg] signal_spec ...]"), ("type", "[-afptP] name [name ...]"),
   ("typeset", "[-aAfFgiIlnrtux] name[=value] ... or typeset -p [-aAfFilnrtux] [name ...]"),
   ("ulimit", "[-SHabcdefiklmnpqrstuvxPRT] [limit]"), ("umask", "[-p] [-S] [mode]"),
   ("unalias", "[-a] name [name ...]"), ("unset", "[-f] [-v] [-n] [name ...]"),
   ("wait", "[-fn] [-p var] [id ...]")]

/-- The line that tells how a builtin command is used, if there is one. -/
def usage? (name : String) : Option String :=
  (usages.lookup name).map (fun rest =>
    name ++ ": usage: " ++ name ++ (if rest = "" then "" else " " ++ rest) ++ "\n")

end PubSubTrials.Shell
