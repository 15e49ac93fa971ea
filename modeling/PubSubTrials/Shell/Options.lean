import PubSubTrials.Shell.Syntax

/-!
# Options of scripts

The options that a script can switch on and off, by letters or by names. An option without a
letter of its own has a control character in the place of one. The extended dialect also has
features, which only have names.
-/

namespace PubSubTrials.Shell

namespace Dialect

/-- The options of a dialect with their letters, in the order in which they are listed. -/
def options : Dialect → List (String × Char)
  | plain =>
    [("errexit", 'e'), ("noglob", 'f'), ("ignoreeof", 'I'), ("interactive", 'i'), ("monitor", 'm'),
     ("noexec", 'n'), ("stdin", 's'), ("xtrace", 'x'), ("verbose", 'v'), ("vi", 'V'),
     ("emacs", 'E'), ("noclobber", 'C'), ("allexport", 'a'), ("notify", 'b'), ("nounset", 'u'),
     ("privileged", 'p'), ("nolog", '\x01'), ("debug", '\x02')]
  | extended =>
    [("allexport", 'a'), ("braceexpand", 'B'), ("emacs", '\x01'), ("errexit", 'e'),
     ("errtrace", 'E'), ("functrace", 'T'), ("hashall", 'h'), ("histexpand", 'H'),
     ("history", '\x02'), ("ignoreeof", '\x03'), ("interactive-comments", '\x04'),
     ("keyword", 'k'), ("monitor", 'm'), ("noclobber", 'C'), ("noexec", 'n'), ("noglob", 'f'),
     ("nolog", '\x05'), ("notify", 'b'), ("nounset", 'u'), ("onecmd", 't'), ("physical", 'P'),
     ("pipefail", '\x06'), ("posix", '\x07'), ("privileged", 'p'), ("verbose", 'v'), ("vi", '\x08'),
     ("xtrace", 'x')]

/-- The letters of options in the order in which a script sees them. -/
def optionOrder : Dialect → List Char
  | plain => plain.options.map Prod.snd
  | extended =>
    "abefhikmnprtuvxBCEHPTcs".toList ++
      (extended.options.map Prod.snd).filter (fun letter => letter < ' ')

/-- The options that are on when a script starts. -/
def initialOptions : Dialect → List Char
  | plain => []
  | extended => ['h', 'B', '\x04']

end Dialect

/-- The letter by which the status of a pipeline is that of the last stage that fails. -/
def pipefail : Char := '\x06'

/-! ## Features -/

/-- The features of the extended dialect, and whether they are on when a script starts. -/
def features : List (String × Bool) :=
  [("autocd", false), ("assoc_expand_once", false), ("cdable_vars", false), ("cdspell", false),
   ("checkhash", false), ("checkjobs", false), ("checkwinsize", true), ("cmdhist", true),
   ("compat31", false), ("compat32", false), ("compat40", false), ("compat41", false),
   ("compat42", false), ("compat43", false), ("compat44", false), ("complete_fullquote", true),
   ("direxpand", false), ("dirspell", false), ("dotglob", false), ("execfail", false),
   ("expand_aliases", false), ("extdebug", false), ("extglob", false), ("extquote", true),
   ("failglob", false), ("force_fignore", true), ("globasciiranges", true), ("globskipdots", true),
   ("globstar", false), ("gnu_errfmt", false), ("histappend", false), ("histreedit", false),
   ("histverify", false), ("hostcomplete", true), ("huponexit", false), ("inherit_errexit", false),
   ("interactive_comments", true), ("lastpipe", false), ("lithist", false),
   ("localvar_inherit", false), ("localvar_unset", false), ("login_shell", false),
   ("mailwarn", false), ("no_empty_cmd_completion", false), ("nocaseglob", false),
   ("nocasematch", false), ("noexpand_translation", false), ("nullglob", false),
   ("patsub_replacement", true), ("progcomp", true), ("progcomp_alias", false),
   ("promptvars", true), ("restricted_shell", false), ("shift_verbose", false),
   ("sourcepath", true), ("varredir_close", false), ("xpg_echo", false)]

end PubSubTrials.Shell
