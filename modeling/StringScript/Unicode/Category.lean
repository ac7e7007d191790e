import StringScript.Unicode.Table

/-!
# General categories

Every code point has one general category (Unicode 16.0), and some categories have a group of their
own.
-/

namespace StringScript.Unicode

inductive Category
  | uppercaseLetter | lowercaseLetter | titlecaseLetter | modifierLetter | otherLetter
  | nonspacingMark | spacingMark | enclosingMark | decimalNumber | letterNumber
  | otherNumber | connectorPunctuation | dashPunctuation | openPunctuation | closePunctuation
  | initialPunctuation | finalPunctuation | otherPunctuation | mathSymbol | currencySymbol
  | modifierSymbol | otherSymbol | spaceSeparator | lineSeparator | paragraphSeparator
  | control | format | privateUse | unassigned | surrogate
deriving Repr, DecidableEq

namespace Category

def place : Category → Nat := Category.ctorIdx

def all : List Category :=
  [.uppercaseLetter, .lowercaseLetter, .titlecaseLetter, .modifierLetter,
   .otherLetter, .nonspacingMark, .spacingMark, .enclosingMark,
   .decimalNumber, .letterNumber, .otherNumber, .connectorPunctuation,
   .dashPunctuation, .openPunctuation, .closePunctuation, .initialPunctuation,
   .finalPunctuation, .otherPunctuation, .mathSymbol, .currencySymbol,
   .modifierSymbol, .otherSymbol, .spaceSeparator, .lineSeparator,
   .paragraphSeparator, .control, .format, .privateUse,
   .unassigned, .surrogate]

/-- The names of a category in patterns. No character is a surrogate, and that category has no
name. -/
def names : Category → List String
  | .uppercaseLetter => ["Lu", "Uppercase_Letter"]
  | .lowercaseLetter => ["Ll", "Lowercase_Letter"]
  | .titlecaseLetter => ["Lt", "Titlecase_Letter"]
  | .modifierLetter => ["Lm", "Modifier_Letter"]
  | .otherLetter => ["Lo", "Other_Letter"]
  | .nonspacingMark => ["Mn", "Nonspacing_Mark"]
  | .spacingMark => ["Mc", "Spacing_Mark"]
  | .enclosingMark => ["Me", "Enclosing_Mark"]
  | .decimalNumber => ["Nd", "Decimal_Number", "digit"]
  | .letterNumber => ["Nl", "Letter_Number"]
  | .otherNumber => ["No", "Other_Number"]
  | .connectorPunctuation => ["Pc", "Connector_Punctuation"]
  | .dashPunctuation => ["Pd", "Dash_Punctuation"]
  | .openPunctuation => ["Ps", "Open_Punctuation"]
  | .closePunctuation => ["Pe", "Close_Punctuation"]
  | .initialPunctuation => ["Pi", "Initial_Punctuation"]
  | .finalPunctuation => ["Pf", "Final_Punctuation"]
  | .otherPunctuation => ["Po", "Other_Punctuation"]
  | .mathSymbol => ["Sm", "Math_Symbol"]
  | .currencySymbol => ["Sc", "Currency_Symbol"]
  | .modifierSymbol => ["Sk", "Modifier_Symbol"]
  | .otherSymbol => ["So", "Other_Symbol"]
  | .spaceSeparator => ["Zs", "Space_Separator"]
  | .lineSeparator => ["Zl", "Line_Separator"]
  | .paragraphSeparator => ["Zp", "Paragraph_Separator"]
  | .control => ["Cc", "Control", "cntrl"]
  | .format => ["Cf", "Format"]
  | .privateUse => ["Co", "Private_Use"]
  | .unassigned => ["Cn", "Unassigned"]
  | .surrogate => []

def table : List String :=
  ["[;>dzg*dzgtdvdzd+dzdsdzfnpzf+gzfd[tdzdvd=drd=df[td+dvd+d[1d>dzd*h<dzd=d<djdwd+d]d<d=d<d+dq",
   "f=dfdzf=dqdjdxdqgzdd>+ddlf(+dfmddfdddfdddfdddfdddfdddfdddfdddfdddfdddfdddfdddfdddfdddfdddf",
   "dddfdddfdddfdddfdddfdddfdddfdddfdddfdddfdddfdddfdddffddfdddfdddfdddfdddfdddfdddfdddffddfdd",
   "dfdddfdddfdddfdddfdddfdddfdddfdddfdddfdddfdddfdddfdddfdddfdddfdddfdddfdddfdddfdddfdddfddff",
   "dddfdddfgdffdddfddffddgffdhfddffddgfgdffddffdddfdddfddffdddffddfddffddgfdddfddfffjdddfgjhd",
   "dgdfdddgdfdddgdfdddfdddfdddfdddfdddfdddfdddfdddffddfdddfdddfdddfdddfdddfdddfdddfdddffddgdf",
   "dddfddgfdddfdddfdddfdddfdddfdddfdddfdddfdddfdddfdddfdddfdddfdddfdddfdddfdddfdddfdddfdddfdd",
   "dfdddfdddfdddfdddfdddfdddfdddfdddfldffddfffddfddhfdddfdddfdddfdddf2jjdf]hz=hhr=thj=lhd=dhd",
   "=xk3wddfdddfdhd=dddfd?fhdfgzddd?h=fddzddg?ddd?ddffddx?ddnf1gddffdgfgddfdddfdddfdddfdddfddd",
   "fdddfdddfdddfdddfdddfdddfjddfd+dddfddfffd1+f1wddfdddfdddfdddfdddfdddfdddfdddfdddfdddfdddfd",
   "ddfdddfdddfdddfdddfdddfd<dkjmfddfdddfdddfdddfdddfdddfdddfdddfdddfdddfdddfdddfdddfdddfdddfd",
   "ddfdddfdddfdddfdddfdddfdddfdddfdddfdddfdddfdddfddffdddfdddfdddfdddfdddfdddffddfdddfdddfddd",
   "fdddfdddfdddfdddfdddfdddfdddfdddfdddfdddfdddfdddfdddfdddfdddfdddfdddfdddfdddfdddfdddfdddfd",
   "ddfdddfdddfdddfdddfdddfdddfdddfdddfdddfdddfdddfdddfdddfdddfdddfdddfdddfdddfdddfdddfdddfd?d",
   "d1k?fhdzkf1nzdsd?f<f*d?dk1ssdkdzdkfzdkfzdkd?mj]?hjhzf?q]k+gzf*dzf<fkqzd]dzgj;hdjpk=npzhjfk",
   "dj3gzdjdkl]d<dkkhfkf<dkhjfnpjg<fjdzt?d]djdkdj%k]?fj2)kqjd?tnpj1dknhf<dzghd?fkd*fj<khhdknhd",
   "kghdkj?fzv?dj)kg?fzd?djq?jj(=djk?d]f?jknj1nhdk(]dk;ldj1<kdldkdjdlgkmlhkdlfjdkljpkfzfnpzdhd",
   "jvkdlf?djm?fjf?fj<?djl?djd?gjh?fkdjdlgkh?flf?flfkdjd?mld?hjf?djgkf?fnpjf*fqk<d*djdzdkd?fkf",
   "ld?djk?hjf?fj<?djl?djf?djf?djf?fkd?dlgkf?hkf?fkg?gkd?ljh?djd?lnpkfjgkdzd?pkfld?djn?djg?dj<",
   "?djl?djf?djj?fkdjdlgkj?dkfld?dlfkd?fjd?vjfkf?fnpzd*d?ljdkk?dkdlf?djm?fjf?fj<?djl?djf?djj?f",
   "kdjdldkdldkh?flf?flfkd?lkfld?hjf?djgkf?fnp<djdqk?pkdjd?djk?gjg?djh?gjf?djd?djf?gjf?gjg?gjr",
   "?hlfkdlf?glg?dlgkd?fjd?kld?tnpqg<k*d<d?jkdlgkdjm?djg?dj>?djw?fkdjdkglh?dkg?dkh?lkf?djg?fjd",
   "?fjfkf?fnp?lzdql<djdkdlfzdjm?djg?dj>?djp?djj?fkdjdldkdlj?dkdlf?dlfkf?llf?kjf?djfkf?fnp?djf",
   "ld?rkflfjn?djg?dj1nkfjdlgkh?dlg?dlgkdjd<d?hjgldqljgkf?fnpqn<djk?dkdlf?djz?gj(?djn?djd?fjl?",
   "gkd?hlgkg?dkd?dlm?knp?flfzd?rj1wkdjfkl?h*djkhdkmzdnpzf?1jjf?djd?djj?dj(?djd?djpkdjfknjd?fj",
   "j?dhd?dkl?dnp?fjh?;jd<gzv<dzd<gkf<knpqp<dkd<dkd<dkdtdvdtdvdlfjm?dj1h?hktldkjzdkfjjkq?dk1h?",
   "d<mkd<k?d<fzj<hzf?1jj1qlfkhldkkldkflfkfjdnpzkjklfkfjhkgjdlgjflljgkhjskdlfkflkkdjdldnplgkd<",
   "fd1k?ddd?jdd?ff1qzdhdfgjBn?djh?fjl?djd?djh?fj1n?djh?fj1d?djh?fjl?djd?djh?fjv?dj1)?djh?fj2g",
   "?fkgznq*?gjw<p?kd2<?ffk?fsdjMr<dzdjx>dj[tdvd?gj2qzgpgjm?ljzkgld?nj+kfldzf?njzkf?rjs?djg?dk",
   "f?rj1*kfldkllmkdlfkqzghdzg*djdkd?fnp?kqp?kzksdzhkg]dkdnp?kj1ghdj1=?ljjkfj1fkdjd?jj2k?pj:?d",
   "kglhkflg?hlfkdlkkg?h<d?gzfnpj%?fjj?qj1r?hj[?knpqd?g<1fj>kflfkd?fzfj1=ldkdldkl?dkdldkdlfkml",
   "kkp?fkdnp?knp?kzlhdzk?fktmdkw?1xkhldj1vkdldkjldkdljkdlfjm?dzfnpzl<pkn<nzgkfldj%ldkhlfkfldk",
   "gjfnpj1rkdldkflgkdldkglf?mzhj1hlmkmlfkf?gzjnp?gjgnpj%hkzffnddfd?jd1q?fdgzm?mkgzdksldkljhkd",
   "jkkdjfldkfjd?jf1rh1:fshdf1fh1jk1;ddfdddfdddfdddfdddfdddfdddfdddfdddfdddfdddfdddfdddfdddfdd",
   "dfdddfdddfdddfdddfdddfdddfdddfdddfdddfdddfdddfdddfdddfdddfdddfdddfdddfdddfdddfdddfdddfdddf",
   "dddfdddfdddfdddfdddfdddfdddfdddfdddfdddfdddfdddfdddfdddfdddfdddfdddfdddfdddfdddfdddfdddfdd",
   "dfdddfdddfdddfdddfdddfdddfdddfdddfdddfdddfdddfdddfdddfdddfdddfnddfdddfdddfdddfdddfdddfdddf",
   "dddfdddfdddfdddfdddfdddfdddfdddfdddfdddfdddfdddfdddfdddfdddfdddfdddfdddfdddfdddfdddfdddfdd",
   "dfdddfdddfdddfdddfdddfdddfdddfdddfdddfdddfdddfdddfdddfdddfdddfdddfdddfdddfdddfndmfk?fdk?ff",
   "mdmfmdmfk?fdk?ffm?ddd?ddd?ddd?dddfmdmft?ffmgmfmgmfmgmfj?dffdhgd=dfd=gfg?dffdhgd=gfh?fffdh?",
   "d=gfmdj=g?ffg?dffdhgd=f?d>q]jskzfwdxdtdwfxdtdwdzm(d)d]j>dznwdxdzhrfzg+dtdvdzq+dzdrdzp>d]j?",
   "d]pqdhd?fqk+gtdvdhdqp+gtdvd?dhs?g*1d?vksmhkdmgkr?v<fdd<hdd<ffddgffdgfd<ddd<f+ddj<kdd<ddd<d",
   "dd<ddh<dfddhfdjhfd<fffdf+jddfh<d+d<ffd<dqwp1gddfdphqd<f?h+j<j+f<h+d<f+d<f+d<l+d<:+f<f+d<d+",
   "d<:+8r<mtdvdtdvd<*+f<ltdvd<2x+d<%+)<1m+k<2m?<<q?=q1!<2tq<<5>+d<n+d<1<+m<3v+d<7(tdvdtdvdtdv",
   "dtdvdtdvdtdvdtdvdq%<1r+jtdvd+:tdvdtdvdtdvdtdvdtdvd+w<7;+4gtdvdtdvdtdvdtdvdtdvdtdvdtdvdtdvd",
   "tdvdtdvdtdvd+1:tdvdtdvd+;tdvd+8f<1w+=<f+k<1l?f<;?d<3nd1wf1wddfddgffddfdddfdddfddhfdddffddf",
   "khfdgfdddfdddfdddfdddfdddfdddfdddfdddfdddfdddfdddfdddfdddfdddfdddfdddfdddfdddfdddfdddfdddf",
   "dddfdddfdddfdddfdddfdddfdddfdddfdddfdddfdddfdddfdddfdddfdddfdddfdddfdddfdddfdddfdddfdddfdd",
   "dfdddfdddfdddfdddfdddff<kddfdddfdkgddfd?jzhqdzff1k?dfd?jfd?fj1(?lhdzd?tkdj>?njl?djl?djl?dj",
   "l?djl?djl?djl?djl?dk;zfwdxdwdxdzgwdxdzdwdxdznsdzfsdzdwdxdzfwdxdtdvdtdvdtdvdtdvdzjhdzpsfzhs",
   "dzdtdzs<fzgtdvdtdvdtdvdtdvdsd?1f<[?d<2)?r<6<?[<w>dzg<dhdjdpdtdvdtdvdtdvdtdvdtdvd<ftdvdtdvd",
   "tdvdtdvdsdtdvf<dpnkhlfsdhj<fpghdjdzd<f?dj2<?fkf=fhfjdsdj2[zdhgjd?jj1q?dj2%?d<fqh<pj;<1k?n<",
   "djw<:?dqp<%qm<dqv<;qp<1lqv<9;j6F;<1;jNJ=hdj13>?g<1>?nj1mhkzfj8rhdzgjwnpjf?*ddfdddfdddfdddf",
   "dddfdddfdddfdddfdddfdddfdddfdddfdddfdddfdddfdddfdddfdddfdddfdddfdddfdddfdddfdjdkdmgzdkpzdh",
   "dddfdddfdddfdddfdddfdddfdddfdddfdddfdddfdddfdddfdddfdddfdhfkfj2kppkfzk?m=>hn=fddfdddfdddfd",
   "ddfdddfdddfdddfgddfdddfdddfdddfdddfdddfdddfdddfdddfdddfdddfdddfdddfdddfdddfdddfdddfdddfddd",
   "fdddfdddfdddfdddfdddfdddfdddfdddfdddfdddfdddfdddfdhdfmddfdddfddffdddfdddfdddfdddfdhd=fddfd",
   "ddfdjdddfdddfgddfdddfdddfdddfdddfdddfdddfdddfdddfdddfddjfddjfdddfdddfdddfdddfdddfdddfdddfd",
   "dhfdddfddffd?fddfd?dfd?dfdddfdddfdddfddd?=hgddfdjdhffdjlkdjgkdjhkdj>lfkfld<hkd?gqk<f*d<d?k",
   "j1*zh?mlfj1zlwkf?mzfnp?kkzjkzgjdzdjfkdnpj!kmzfj>kqlf?qzdj??gkgldj1vkdlfkhlfkflgzs?dhdnp?hz",
   "fjjkdhdjnnpjj?dj1nkklfkflfkf?njgkdjmkdld?fnp?fzhjwhdjk<gjdldkdldj1zkdjdkgjfkfjjkfjdkdjd?(j",
   "fhdzfjqldkflfzfjdhfldkd?pjk?fjk?fjk?njl?djl?df1q=dhhfnhd=f?hf2wj1glfkdlfkdlfzdldkd?fnp?kjB",
   "Zh?rj>?hj1x?h%1c;!67;jCt?fj3p?1kfl?rfj?jjdkdjp+djs?djj?djd?djf?djf?dj3r=x?wjCqvdtd<wj1;?fj",
   "1<?l<d?;jr*d<gkwzltdvdzd?kkwzdsfrftdvdtdvdtdvdtdvdtdvdtdvdtdvdtdvdzftdvdzhrgzg?dzhsdtdvdtd",
   "vdtdvdzg+dsd+g?dzd*dzf?hjj?dj4l?f]d?dzg*dzgtdvdzd+dzdsdzfnpzf+gzfd[tdzdvd=drd=df[td+dvd+dt",
   "dvdzdtdvdzfjphdj1shfj:?gjk?fjk?fjk?fjg?g*f+d=d<d*f?d<d+h<f?p]g<f?fjr?dj[?dj+?djf?djv?fjt?1",
   "fj3]?jzg?hq1s?g<np1=qh<xqf<g?d<s?g<d?1v<1skd?4fj??gj1x?vkdq]?hj;qh?nj*pdjmpd?jj1kkj?jj%?dz",
   "dj1h?hjmzdpj?1pd1mf1mj2t?fnp?kd1h?hf1h?hj1m?mj1*?qzddq?ddv?ddl?ddf?dfq?dfv?dfl?dff?gj1*?rj",
   "9>?nj<?pjm?(hk?dh1p?dhn?2jjk?fjd?dj1r?djf?gjd?fj>?dzdqmj><fqlj:?mqn?1wj+?djf?jqjj<qk?gzdj[",
   "?jzd?1;j1(?hqfjfqw?fq1tjdkg?dkf?jkhjh?djg?dj??fkg?hkdqn?lzn?lj?qfzdj?qg?;jm<dj!kf?hqjzl?nj",
   "1<?gzlj<?fqmj+?jqmjz?lzh?rql?2wj2n?1>d1+?sf1+?lqkj1hkh?mnp?knpjhhdjdd<?gkjsdhdf<?m+f?6wq:?",
   "dj1p?dkfsd?fjf?wjg?1>khj?qpjd?mj<kqqhzj?<jzkhzh?1kj=ql?*j>?nldkdldj1=kvzl?hq*npkdjfkfjd?nk",
   "gldj1slgkhlfkfzf]dzhkd?p]d?fj)?lnp?kkgj1hkjldkm?dnpzhjdlfjd?mj1gkdzfjd?nkfldj1wlgknlfjhzhk",
   "hzdldkdnpjdzdjdzg?dq*?qjz?dj)lgkglfkdldkfzkkdjfkd?1%jl?djd?djh?djv?djpzd?kj1vkdlgkm?jnp?kk",
   "flf?djm?fjf?fj<?djl?djf?djj?dkfjdlfkdlh?flf?flg?fjd?kld?jjjlf?fkl?gkj?qjp?djd?fjd?dj1k?djd",
   "lgkk?dld?fld?dlh?dlfkdldkdjdkdjdzf?dzf?mkf??j1=lgkmlfkgldkdjhzjnpzf?dzdkdjg?%j1wlgkkldkdlh",
   "kfldkfjfzdjd?mnp?5kj1vlgkh?flhkfldkfz>jhkf?1fj1wlgkmlfkdldkfzgjd?qnp?kzs?+j1qkdldkdlfkkldk",
   "djdzd?knp?kn*?!j]?fkdldkdlfkhldkj?hnpqfzg<djl?5)j1rlgknldkfzd?3hd;f;npqn?rjm?fjd?fjm?djf?d",
   "j(lk?dlf?fkfldkdjdldjdldkdzg?nnp?2kjm?fj1llgkh?fkflhkdjdzdjdld?]jdkpj1mkkldjdkhzmkd?mjdkkl",
   "fkgj1tksldkfzgjdzj?sj2n?lzp?5<j1dzd?tnp?kjn?dj1jldkl?dkkldkdjdzj?pnpq+?gzfj%?fk<?dldklldkf",
   "ldkf?2njl?djf?dj1kkk?gkd?dkf?dkljdkd?mnp?kjk?djf?dj;lj?dkf?dlfkdldkdjd?lnp?9<j+kflfzf?lkfj",
   "dldjs?dj1flfkj?glfkdldkdzsnpkd?2=jd?vq=<m*h<x?szdjX[?3kp3v?dzj?qj6h?2Lrj3dzf?sj11w]wkdjkkv",
   "?pj3X]?jjLl?6P)j%krlgkgnp?1QkjK)?lj:?dnp?hzfj2v?dnp?kj%?fkjzd?pj1wklzj<hhhzd<d?pnp?dql?dj=",
   "?jj+?Fwhgj1mhfzgnp?6kd;f;q>zh?3jj2q?hkdjdl1>?lkhhs?1;hfzdhdkd?qlf?tj5c(?mj16<?1njp?8Rlhh?d",
   "hl?dhf?dj9g?vjd??jg?fjd?tjh?mjDr?28hj3q?jjs?gjn?ljp?f<dkfzd]h?3V!<7wnp?k<F*?2rk1t?fk>?n<3*",
   "?1!<7<?p<1l?f<1!lfkg<glk]mkm<fkl<%kh<1??=<2fkg<d?3[q*?rq*?r<2>?nq)?4ld[f[d[fl?dfzd[f[dd?dd",
   "f?fdd?fdf?fdh?ddmfh?dfd?dfl?dfqd[f[df?ddh?fdm?ddl?df[df?ddh?ddj?ddd?gdl?df[d[f[d[f[d[f[d[f",
   "[d[f[d[f!?fd)+df)+dfkd)+df)+dfkd)+df)+dfkd)+df)+dfkd)+df)+dfkddfd?fn1z<H;k1><hk1z<mkd<tkd<",
   "fzj?vkj?dkv?12wfpjdf*?kfk?6=kl?dkx?fkl?dkf?dkj?jh1%?1dkd?3wj1s?gklhl?fnp?hjd<d?9;j%kd?xj1r",
   "khnp?j*d?Gwj]hdkhnp?6<j%kfjdnp?hzd?G;jl?djh?djf?djv?dj6j?fqnkl?1nd1ff1fklhd?hnp?hzf?Sxq1]<",
   "dqg*dqh?2rq1s<dqv?6fjh?dj]?djf?djd?fjd?djp?djh?djd?djd?kjd?hjd?djd?djd?djg?djf?djd?fjd?djd",
   "?djd?djd?djd?djf?djd?fjh?djl?djh?djh?djd?djp?djx?jjg?djj?djx?1*+f?8t<1r?h<3h?r<v?f<v?d<v?d",
   "<1j?pqs<5d?1(<??s<1r?h<n?l<f?t<k?4[<7]=j<Q(?h<x?g<s?g<3>?h<2:?k<r?h<d?v<r?h<1(?m<p?k<1m?m<",
   "%?f<r?h<f?1%<B*?r<t?f<s?g<p?j<1(?l<v?f<q?k<n?l<4+?d<2!np?10kj19Q;?;j41[?kj6%?fj5Nf?tj79x?v",
   "jMt?2FfjJ%?1Hfj4Vq?jj42;?PR2x]d?%]2;?3;k7w?1cJw!1cc%?f!1cc%?f"]

def members (categories : List Category) : CharSet := readKinds table (categories.map place)

def letters : List Category :=
  [.uppercaseLetter, .lowercaseLetter, .titlecaseLetter, .modifierLetter, .otherLetter]

def casedLetters : List Category :=
  [.uppercaseLetter, .lowercaseLetter, .titlecaseLetter]

def marks : List Category :=
  [.nonspacingMark, .spacingMark, .enclosingMark]

def numbers : List Category :=
  [.decimalNumber, .letterNumber, .otherNumber]

def punctuation : List Category :=
  [.connectorPunctuation, .dashPunctuation, .openPunctuation, .closePunctuation,
   .initialPunctuation, .finalPunctuation, .otherPunctuation]

def symbols : List Category :=
  [.mathSymbol, .currencySymbol, .modifierSymbol, .otherSymbol]

def separators : List Category :=
  [.spaceSeparator, .lineSeparator, .paragraphSeparator]

def others : List Category :=
  [.control, .format, .privateUse, .unassigned]

/-- The groups of categories, each with its names. -/
def groups : List (List String × List Category) :=
  [(["L", "Letter"], letters),
   (["LC", "Cased_Letter"], casedLetters),
   (["M", "Mark", "Combining_Mark"], marks),
   (["N", "Number"], numbers),
   (["P", "Punctuation", "punct"], punctuation),
   (["S", "Symbol"], symbols),
   (["Z", "Separator"], separators),
   (["C", "Other"], others)]

def named? (name : String) : Option CharSet :=
  if isNamed ["Any"] name then some .all
  else if isNamed ["Assigned"] name then some (members [.unassigned]).complement
  else if isNamed ["ASCII"] name then some ⟨[(0, 0x7F)]⟩
  else
    match groups.find? fun (names, _) => isNamed names name with
    | some (_, categories) => some (members categories)
    | none =>
      (all.find? fun category => isNamed category.names name).map fun category =>
        members [category]

end Category

end StringScript.Unicode
