import Turnstile.Config
import Turnstile.Toml.Reader
/-! The configuration file. -/
namespace Turnstile.Config

def ofToml? (content : String) : Option Config := (Toml.read? content).bind ofJson?

def ofFile (content : Option String) : Config := (content.bind ofToml?).getD standard

end Turnstile.Config
